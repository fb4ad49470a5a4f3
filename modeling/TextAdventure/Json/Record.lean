import TextAdventure.Dict
import TextAdventure.Json.Basic

/-
  Reading data from JSON values.

  A record is written as an object of named fields, or as an
  array of the fields in their order. Names that the record
  does not have are skipped; a field given twice is refused.
  A variant is written as its name, or as an object with its
  name as the only member.

  Key definitions include:
    * `Json.Record.ofJson?`
    * `Json.Record.required?`
    * `Json.Record.withDefault?`
    * `Json.variant?`
-/

namespace TextAdventure

namespace Json

------------------------------------------------------------
-- Plain Data
------------------------------------------------------------

/- A truth value. -/
def bool? : Json → Option Bool
| .bool value => some value
| _ => none

/- A text. -/
def string? : Json → Option String
| .string value => some value
| _ => none

/- A natural number below a bound. -/
def natBelow? (bound : Nat) : Json → Option Nat
| .integer value =>
    if 0 ≤ value ∧ value < bound then some value.toNat
    else none
| _ => none

/- An unsigned number of 32 bits. -/
def uint32? (json : Json) : Option UInt32 :=
  (natBelow? UInt32.size json).map UInt32.ofNat

/- An unsigned number of 64 bits. -/
def uint64? (json : Json) : Option UInt64 :=
  (natBelow? UInt64.size json).map UInt64.ofNat

/- Null, or a value. -/
def nullable?
    {α : Type}
    (decode : Json → Option α) :
    Json → Option (Option α)
| .null => some none
| json => (decode json).map some

/- A list of values. -/
def list?
    {α : Type}
    (decode : Json → Option α) :
    Json → Option (List α)
| .array items => items.mapM decode
| _ => none

/- A list of texts. -/
def strings? : Json → Option (List String) :=
  list? string?

/- A dictionary; of members with one name the last wins. -/
def dict?
    {α : Type}
    (decode : Json → Option α) :
    Json → Option (Dict α)
| .object members =>
    (members.mapM (fun entry =>
      (decode entry.2).map (fun value =>
        (entry.1, value)))).map Dict.ofList
| _ => none

/- A dictionary as an object. -/
def ofDict
    {α : Type}
    (encode : α → Json)
    (dict : Dict α) : Json :=
  .object
    (dict.entries.map (fun entry =>
      (entry.1, encode entry.2)))

/-
  The name of a variant and its content, if any. Only an
  object with a single member names a variant.
-/
def variant? : Json → Option (String × Option Json)
| .string name => some (name, none)
| .object [(name, content)] => some (name, some content)
| _ => none

/- Whether a variant without content may have this one. -/
def isUnit : Option Json → Bool
| none => true
| some .null => true
| some _ => false

/- A variant without content, by its name. -/
def unitVariant?
    {α : Type}
    (ofName? : String → Option α)
    (json : Json) : Option α := do
  let (name, content) ← variant? json
  if isUnit content then ofName? name else none

------------------------------------------------------------
-- Records
------------------------------------------------------------

/- The fields of a record, and whether names came with them. -/
structure Record where
  members : List (String × Json)
  named : Bool

namespace Record

/- Whether no two members share a name. -/
def namesDiffer : List (String × Json) → Bool
| [] => true
| entry :: rest =>
    !rest.any (fun other => other.1 == entry.1) &&
      namesDiffer rest

/- The fields of a record with the given field names. -/
def ofJson? (names : List String) : Json → Option Record
| .object members =>
    let known :=
      members.filter (fun entry => names.contains entry.1)
    if namesDiffer known then some ⟨known, true⟩ else none
| .array items =>
    if items.length ≤ names.length then
      some ⟨names.zip items, false⟩
    else
      none
| _ => none

variable {α : Type}

/- The content of a field. -/
def field? (record : Record) (name : String) : Option Json :=
  (record.members.find? (fun entry => entry.1 == name)).map
    Prod.snd

/- A field that must be there. -/
def required?
    (record : Record)
    (name : String)
    (decode : Json → Option α) : Option α := do
  let json ← record.field? name
  decode json

/- A field that has a default. -/
def withDefault?
    (record : Record)
    (name : String)
    (default : α)
    (decode : Json → Option α) : Option α :=
  match record.field? name with
  | some json => decode json
  | none => some default

/-
  A field that may be null. It may be left out of an object
  but not of an array.
-/
def optional?
    (record : Record)
    (name : String)
    (decode : Json → Option α) : Option (Option α) :=
  match record.field? name with
  | some json => nullable? decode json
  | none => if record.named then some none else none

end Record

end Json

end TextAdventure
