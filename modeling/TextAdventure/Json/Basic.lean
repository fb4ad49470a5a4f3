/-
  JSON values.

  A number is an integer when it is written without point and
  exponent and fits 64 bits, and a double otherwise. What can
  be skipped but not read is one unreadable value: a number
  too large for a double, a text with half of a surrogate
  pair, an object with such a name, and what lies too deep.

  Key definitions include:
    * `Json`
    * `Json.member?`
    * `Json.isReadable`
    * `Json.ofOption`
-/

namespace TextAdventure

------------------------------------------------------------
-- Values
------------------------------------------------------------

/- A JSON value; the members of an object keep their order. -/
inductive Json where
| null
| bool (value : Bool)
| integer (value : Int)
| float (value : Float)
| string (value : String)
| array (items : List Json)
| object (members : List (String × Json))
| unreadable
deriving Inhabited

namespace Json

/- The first member of an object with a name. -/
def member? (name : String) : Json → Option Json
| .object members =>
    (members.find? (fun entry => entry.1 == name)).map
      Prod.snd
| _ => none

mutual

/- Whether a value and all its parts can be read. -/
def isReadable : Json → Bool
| .unreadable => false
| .array items => areReadable items
| .object members => membersAreReadable members
| _ => true

/- Whether all items can be read. -/
def areReadable : List Json → Bool
| [] => true
| item :: rest => isReadable item && areReadable rest

/- Whether the values of all members can be read. -/
def membersAreReadable : List (String × Json) → Bool
| [] => true
| (_, value) :: rest =>
    isReadable value && membersAreReadable rest

end

/- An absent value is written as null. -/
def ofOption
    {α : Type}
    (encode : α → Json) :
    Option α → Json
| none => .null
| some value => encode value

/- A list of values as an array. -/
def ofList
    {α : Type}
    (encode : α → Json)
    (values : List α) : Json :=
  .array (values.map encode)

/- A list of texts as an array. -/
def ofStrings (texts : List String) : Json :=
  ofList .string texts

end Json

end TextAdventure
