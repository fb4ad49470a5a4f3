import TextAdventure.Toml.Basic

/-
  Tables under construction.

  A table may be opened once by a header. A table that only
  leads to another may still be opened later; one that a
  dotted key has made can only be extended by such keys. A
  value, also an inline table, is never extended.

  Key definitions include:
    * `Toml.Node`
    * `Toml.put`
    * `Toml.openTable`
    * `Toml.openItem`
    * `Toml.putAt`
-/

namespace TextAdventure

namespace Toml

------------------------------------------------------------
-- Nodes
------------------------------------------------------------

/- How a table has come to be. -/
inductive Origin where
| header
| path
| dotted
deriving DecidableEq

/- What stands at a key of a table under construction. -/
inductive Node where
| value (value : Toml)
| table (origin : Origin) (entries : List (String × Node))
| items (tables : List (List (String × Node)))

/- The entries of a table under construction. -/
abbrev Entries :=
  List (String × Node)

/- What stands at a key. -/
def nodeAt? (key : String) (entries : Entries) : Option Node :=
  (entries.find? (fun entry => entry.1 == key)).map Prod.snd

/- The entries with something at a key. -/
def setNode (key : String) (node : Node) :
    Entries → Entries
| [] => [(key, node)]
| entry :: rest =>
    if entry.1 = key then
      (key, node) :: rest
    else
      entry :: setNode key node rest

/- The tables of an array with the last one changed. -/
def changeLast (change : Entries → Option Entries) :
    List Entries → Option (List Entries)
| [] => none
| [last] => (change last).map (fun changed => [changed])
| first :: rest =>
    (changeLast change rest).map (fun changed =>
      first :: changed)

------------------------------------------------------------
-- Values
------------------------------------------------------------

/-
  Put a value at a dotted key, whose last part is apart. The
  parts before it lead through tables made by dotted keys.
-/
def put (last : String) (value : Toml) :
    List String → Entries → Option Entries
| [], entries =>
    match nodeAt? last entries with
    | some _ => none
    | none => some (setNode last (.value value) entries)
| key :: keys, entries =>
    match nodeAt? key entries with
    | none => do
        let inner ← put last value keys []
        return setNode key (.table .dotted inner) entries
    | some (.table origin inner) =>
        if origin = .header ∨
            (keys = [] ∧ origin ≠ .dotted) then
          none
        else do
          let inner ← put last value keys inner
          return setNode key (.table origin inner) entries
    | some (.items tables) =>
        if keys = [] then
          none
        else do
          let tables ←
            changeLast (put last value keys) tables
          return setNode key (.items tables) entries
    | some (.value _) => none

/- Put a value at a key of several parts. -/
def putAt (keys : List String) (value : Toml)
    (entries : Entries) : Option Entries :=
  match keys.getLast? with
  | some last => put last value keys.dropLast entries
  | none => none

------------------------------------------------------------
-- Headers
------------------------------------------------------------

/- Go down a path of keys, and change what is there. -/
def descend (change : Entries → Option Entries) :
    List String → Entries → Option Entries
| [], entries => change entries
| key :: keys, entries =>
    match nodeAt? key entries with
    | none => do
        let inner ← descend change keys []
        return setNode key (.table .path inner) entries
    | some (.table origin inner) => do
        let inner ← descend change keys inner
        return setNode key (.table origin inner) entries
    | some (.items tables) => do
        let tables ← changeLast (descend change keys) tables
        return setNode key (.items tables) entries
    | some (.value _) => none

/- Open a table by the last key of a header. -/
def openLast (key : String) (entries : Entries) :
    Option Entries :=
  match nodeAt? key entries with
  | none => some (setNode key (.table .header []) entries)
  | some (.table .path inner) =>
      some (setNode key (.table .header inner) entries)
  | some _ => none

/- Add a table to the array at the last key of a header. -/
def appendLast (key : String) (entries : Entries) :
    Option Entries :=
  match nodeAt? key entries with
  | none => some (setNode key (.items [[]]) entries)
  | some (.items tables) =>
      some (setNode key (.items (tables ++ [[]])) entries)
  | some _ => none

/- Open the table of a header. -/
def openTable (keys : List String) (entries : Entries) :
    Option Entries :=
  match keys.getLast? with
  | some last => descend (openLast last) keys.dropLast entries
  | none => none

/- Open the next table of an array of tables. -/
def openItem (keys : List String) (entries : Entries) :
    Option Entries :=
  match keys.getLast? with
  | some last => descend (appendLast last) keys.dropLast entries
  | none => none

------------------------------------------------------------
-- Finished Tables
------------------------------------------------------------

mutual

/- The value of a finished node. -/
def Node.toToml : Node → Toml
| .value value => value
| .table _ entries => .table (entriesToToml entries)
| .items tables => .array (tablesToToml tables)

/- The entries of a finished table. -/
def entriesToToml : List (String × Node) → List (String × Toml)
| [] => []
| (key, node) :: rest =>
    (key, node.toToml) :: entriesToToml rest

/- The tables of a finished array. -/
def tablesToToml : List (List (String × Node)) → List Toml
| [] => []
| entries :: rest =>
    .table (entriesToToml entries) :: tablesToToml rest

end

end Toml

end TextAdventure
