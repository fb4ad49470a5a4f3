import TextAdventure.Game.Settings
import TextAdventure.Toml.Reader

/-
  Settings in the text of a TOML document.

  A key that is left out has its default, and a key that is
  not known is skipped.

  Key definitions include:
    * `Settings.ofToml?`
    * `Settings.ofText?`
-/

namespace TextAdventure

namespace ContentSource

/- Whether a value may stand for the content of a plain name. -/
def isEmptyToml : Toml → Bool
| .array [] => true
| .table [] => true
| _ => false

/- The source of content of a value. -/
def ofToml? : Toml → Option ContentSource
| .string "embedded" => some .embedded
| .table [("embedded", content)] =>
    if isEmptyToml content then some .embedded else none
| .table [("directory", .string path)] =>
    some (.directory path)
| _ => none

end ContentSource

namespace Settings

/- A natural number below a bound. -/
def natBelow? (bound : Nat) : Toml → Option Nat
| .integer value =>
    if 0 ≤ value ∧ value < bound then some value.toNat
    else none
| _ => none

/- The value of a key, or its default if it is left out. -/
def memberOr?
    {α : Type}
    (toml : Toml)
    (key : String)
    (default : α)
    (decode : Toml → Option α) : Option α :=
  match toml.member? key with
  | some value => decode value
  | none => some default

/- The settings of a table. -/
def ofToml? (toml : Toml) : Option Settings := do
  let source ←
    memberOr? toml "content" .embedded ContentSource.ofToml?
  let maxLayer ←
    memberOr? toml "max_layer" none (fun value =>
      (natBelow? UInt32.size value).map (fun layer =>
        some (UInt32.ofNat layer)))
  let maxPasses ←
    memberOr? toml "max_evaluation_passes" 16 (fun value =>
      (natBelow? UInt64.size value).map UInt64.ofNat)
  return { source, maxLayer, maxPasses }

/- The settings of a text. -/
def ofText? (text : String) : Option Settings :=
  (Toml.parse? text).bind ofToml?

example :
    ofText? "max_layer = 1 # low\n[content]\ndirectory = 'c'" =
      some
        { source := .directory "c", maxLayer := some 1 } := by
  decide +kernel

end Settings

end TextAdventure
