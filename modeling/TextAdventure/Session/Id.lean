import TextAdventure.Text.Hexadecimal

/-
  Session ids: 128 bits, written as hexadecimal digits in
  five groups.

  An id is also read without hyphens, in braces, or after
  `urn:uuid:`, with its letters in any case.

  Key definitions include:
    * `SessionId`
    * `SessionId.text`
    * `SessionId.ofText?`
-/

namespace TextAdventure

/- The id of a session. -/
structure SessionId where
  bits : BitVec 128
deriving DecidableEq

namespace SessionId

instance : Inhabited SessionId := ⟨⟨0⟩⟩

------------------------------------------------------------
-- Writing
------------------------------------------------------------

/- The lowest digits of a number, highest one first. -/
def hexDigits : Nat → Nat → List Char
| 0, _ => []
| count + 1, number =>
    hexDigits count (number / 16) ++
      [Nat.digitChar (number % 16)]

/- The text of an id, with hyphens between the groups. -/
def text (id : SessionId) : String :=
  let digits := hexDigits 32 id.bits.toNat
  String.ofList
    (digits.take 8 ++ '-' :: (digits.drop 8).take 4 ++
      '-' :: (digits.drop 12).take 4 ++
      '-' :: (digits.drop 16).take 4 ++
      '-' :: digits.drop 20)

------------------------------------------------------------
-- Random Ids
------------------------------------------------------------

/-
  The id made of random words of 32 bits. Six of the bits are
  fixed, which mark the id as a random one.
-/
def ofRandom (words : List Nat) : SessionId :=
  let number :=
    words.foldl
      (fun number word => UInt32.size * number + word) 0
  let version := (0x4 : BitVec 128) <<< 76
  let variant := (0x2 : BitVec 128) <<< 62
  let fixed :=
    (0xF : BitVec 128) <<< 76 ||| (0x3 : BitVec 128) <<< 62
  ⟨(BitVec.ofNat 128 number &&& ~~~fixed) |||
    (version ||| variant)⟩

------------------------------------------------------------
-- Reading
------------------------------------------------------------

/- The id of thirty-two digits. -/
def ofDigits? (digits : List Char) : Option SessionId := do
  let number ← Text.hexNumber? digits
  if digits.length = 32 then
    some ⟨BitVec.ofNat 128 number⟩
  else
    none

/- The digits of five groups with hyphens between them. -/
def ungroup? (text : List Char) : Option (List Char) :=
  if text.length = 36 ∧ text[8]? = some '-' ∧
      text[13]? = some '-' ∧ text[18]? = some '-' ∧
      text[23]? = some '-' then
    some
      (text.take 8 ++ (text.drop 9).take 4 ++
        (text.drop 14).take 4 ++ (text.drop 19).take 4 ++
        text.drop 24)
  else
    none

/- The name that may stand in front of an id. -/
def scheme : List Char := "urn:uuid:".toList

/- The grouped form inside braces or after the name. -/
def unwrap (text : List Char) : List Char :=
  let front := text.take scheme.length
  if front.map Char.toLower = scheme then
    text.drop scheme.length
  else
    match text with
    | '\x7b' :: rest =>
        if rest.getLast? = some '\x7d' then rest.dropLast
        else text
    | _ => text

/- The id that a text spells. -/
def ofText? (text : String) : Option SessionId :=
  let chars := text.toList
  if chars.length = 32 then
    ofDigits? chars
  else do
    let digits ← ungroup? (unwrap chars)
    ofDigits? digits

example :
    (ofText? "6F1C0A3E8D524B8E9A372F4F0F3F1C55").map text =
      some "6f1c0a3e-8d52-4b8e-9a37-2f4f0f3f1c55" := by
  decide +kernel

example :
    (ofText?
      "Urn:UUID:6f1c0a3e-8d52-4b8e-9a37-2f4f0f3f1c55").map
        text =
      some "6f1c0a3e-8d52-4b8e-9a37-2f4f0f3f1c55" := by
  decide +kernel

example :
    (ofRandom [0xFFFFFFFF, 0xFFFFFFFF, 0, 0]).text =
      "ffffffff-ffff-4fff-8000-000000000000" := by
  decide +kernel

end SessionId

end TextAdventure
