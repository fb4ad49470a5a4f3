import TextAdventure.Json.Token

/-
  Reading JSON text.

  The reader passes over the tokens once. It keeps the open
  arrays and objects on a stack, innermost first, and what
  may come next. An array or object too deep inside others,
  and an object with a name that has no text, can be skipped
  but not read.

  Key definitions include:
    * `Json.Reader.step?`
    * `Json.Reader.maxDepth`
    * `Json.parse?`
-/

namespace TextAdventure

namespace Json

------------------------------------------------------------
-- Reader States
------------------------------------------------------------

/-
  An array or object whose end has not come. The parts read
  so far stand last one first; an object with a name that
  has no text keeps none.
-/
inductive Frame where
| array (items : List Json)
| object (members : Option (List (String × Json)))
| member (members : Option (List (String × Json)))
    (key : Option String)

/- What the reader waits for. -/
inductive Expect where
| value
| firstItem
| firstKey
| key
| colon
| separator
| nothing (value : Json)

/- The open frames and what may come next. -/
structure Reader where
  frames : List Frame
  expect : Expect

namespace Reader

------------------------------------------------------------
-- Steps
------------------------------------------------------------

/- The reader at the start of a text. -/
def start : Reader where
  frames := []
  expect := .value

/- Hand a finished value to the innermost open frame. -/
def deliver? (value : Json) : List Frame → Option Reader
| [] => some ⟨[], .nothing value⟩
| .array items :: frames =>
    some ⟨.array (value :: items) :: frames, .separator⟩
| .member members key :: frames =>
    let members := do
      let key ← key
      let members ← members
      return (key, value) :: members
    some ⟨.object members :: frames, .separator⟩
| .object _ :: _ => none

/- Begin a value at a place where one is allowed. -/
def beginValue?
    (frames : List Frame) : Token → Option Reader
| .openArray => some ⟨.array [] :: frames, .firstItem⟩
| .openObject =>
    some ⟨.object (some []) :: frames, .firstKey⟩
| .string (some text) => deliver? (.string text) frames
| .string none => deliver? .unreadable frames
| .scalar value => deliver? value frames
| _ => none

/- Read the name of a member. -/
def beginMember?
    (frames : List Frame) : Token → Option Reader
| .string key =>
    match frames with
    | .object members :: frames =>
        some ⟨.member members key :: frames, .colon⟩
    | _ => none
| _ => none

/-
  The most arrays and objects one inside the other that can
  be read.
-/
def maxDepth : Nat := 127

/- Hand on an array or object that has come to its end. -/
def deliverWhole?
    (value : Json)
    (frames : List Frame) : Option Reader :=
  if (frames.drop (maxDepth - 1)).isEmpty then
    deliver? value frames
  else
    deliver? .unreadable frames

/- Close the innermost array. -/
def closeArray? : List Frame → Option Reader
| .array items :: frames =>
    deliverWhole? (.array items.reverse) frames
| _ => none

/- Close the innermost object. -/
def closeObject? : List Frame → Option Reader
| .object (some members) :: frames =>
    deliverWhole? (.object members.reverse) frames
| .object none :: frames => deliver? .unreadable frames
| _ => none

/- Take the next token, if it may come here. -/
def step? (reader : Reader) (token : Token) : Option Reader :=
  match reader.expect with
  | .value => beginValue? reader.frames token
  | .firstItem =>
      match token with
      | .closeArray => closeArray? reader.frames
      | token => beginValue? reader.frames token
  | .firstKey =>
      match token with
      | .closeObject => closeObject? reader.frames
      | token => beginMember? reader.frames token
  | .key => beginMember? reader.frames token
  | .colon =>
      match token with
      | .colon => some { reader with expect := .value }
      | _ => none
  | .separator =>
      match token, reader.frames with
      | .comma, .array _ :: _ =>
          some { reader with expect := .value }
      | .comma, .object _ :: _ =>
          some { reader with expect := .key }
      | .closeArray, frames => closeArray? frames
      | .closeObject, frames => closeObject? frames
      | _, _ => none
  | .nothing _ => none

/- The value read, if the text may end here. -/
def result? (reader : Reader) : Option Json :=
  match reader.expect with
  | .nothing value => some value
  | _ => none

end Reader

------------------------------------------------------------
-- Texts
------------------------------------------------------------

/- The value of a list of tokens. -/
def ofTokens? (tokens : List Token) : Option Json := do
  let reader ← tokens.foldlM Reader.step? Reader.start
  reader.result?

/- The value of a complete JSON text. -/
def parse? (text : String) : Option Json := do
  let tokens ← Token.scan text
  ofTokens? tokens

end Json

end TextAdventure
