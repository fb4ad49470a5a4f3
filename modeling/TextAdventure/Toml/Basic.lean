/-
  TOML values.

  Floating-point numbers and points in time are kept as they
  are written.

  Key definitions include:
    * `Toml`
    * `Toml.member?`
-/

namespace TextAdventure

/- A TOML value; a table keeps its entries in order. -/
inductive Toml where
| string (value : String)
| integer (value : Int)
| float (literal : String)
| boolean (value : Bool)
| time (literal : String)
| array (items : List Toml)
| table (entries : List (String × Toml))
deriving Inhabited

namespace Toml

/- The value of a key in a table. -/
def member? (key : String) : Toml → Option Toml
| .table entries =>
    (entries.find? (fun entry => entry.1 == key)).map Prod.snd
| _ => none

end Toml

end TextAdventure
