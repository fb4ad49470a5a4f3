import TextAdventure.Disk.Basic

/-
  A tree of directories and files, held in memory.

  A path is relative to the root of the tree. Above the root
  there is nothing, and a file has nothing below it.

  Key definitions include:
    * `FileTree`
    * `FileTree.disk`
    * `FileTree.write?`
-/

namespace TextAdventure

------------------------------------------------------------
-- Trees
------------------------------------------------------------

/- Places by the names that lead there; a file has a text. -/
structure FileTree where
  entries : List (List String × Option String)
deriving DecidableEq

namespace FileTree

/- The parts of a path between its slashes. -/
def segments : List Char → List String
| [] => [""]
| c :: rest =>
    if c = '/' then
      "" :: segments rest
    else
      match segments rest with
      | [] => [String.ofList [c]]
      | first :: others =>
          String.ofList (c :: first.toList) :: others

/- The names of a path, without empty ones. -/
def names (path : String) : List String :=
  (segments path.toList).filter (fun name => name != "")

/- The tree of paths with texts; no text is a directory. -/
def ofList (files : List (String × Option String)) :
    FileTree where
  entries :=
    files.map (fun file => (names file.1, file.2))

/- Whether a place is a directory. -/
def isDirectory (tree : FileTree) (place : List String) : Bool :=
  place.isEmpty ||
    tree.entries.any (fun entry =>
      (entry.1 == place && entry.2.isNone) ||
        (entry.1 != place && place.isPrefixOf entry.1))

/- The text of the file at a place. -/
def file? (tree : FileTree) (place : List String) :
    Option String :=
  (tree.entries.find? (fun entry =>
    entry.1 == place && entry.2.isSome)).bind Prod.snd

/- Whether there is anything at a place. -/
def isThere (tree : FileTree) (place : List String) : Bool :=
  tree.isDirectory place || (tree.file? place).isSome

------------------------------------------------------------
-- Reading
------------------------------------------------------------

/- Where a name leads from a place, which is a directory. -/
def step? (tree : FileTree) (place : List String)
    (name : String) : Option (List String) :=
  if !tree.isDirectory place then
    none
  else if name = "" ∨ name = "." then
    some place
  else if name = ".." then
    if place.isEmpty then none else some place.dropLast
  else if tree.isThere (place ++ [name]) then
    some (place ++ [name])
  else
    none

/- Where a path leads, if there is anything. -/
def follow? (tree : FileTree) (path : String) :
    Option (List String) :=
  match segments path.toList with
  | [""] => none
  | "" :: _ => none
  | names => names.foldlM tree.step? []

/- The tree as a disk. -/
def disk (tree : FileTree) : Disk :=
  fun path =>
    match tree.follow? path with
    | none => .nothing
    | some place =>
        match tree.file? place with
        | some text => .text text
        | none => .unreadable

------------------------------------------------------------
-- Writing
------------------------------------------------------------

/- The most bytes that the name of a file may have. -/
def maxNameSize : Nat := 255

/- Where a file may be written. -/
def target? (tree : FileTree) (path : String) :
    Option (List String) :=
  let names := segments path.toList
  let name := names.getLastD ""
  if name = "" ∨ name = "." ∨ name = ".." ∨
      names.head? = some "" then
    none
  else do
    let parent ← names.dropLast.foldlM tree.step? []
    if name.utf8ByteSize ≤ maxNameSize &&
        tree.isDirectory parent &&
        !tree.isDirectory (parent ++ [name]) then
      some (parent ++ [name])
    else
      none

/- The tree with a file written, if the path allows it. -/
def write? (tree : FileTree) (path text : String) :
    Option FileTree := do
  let place ← tree.target? path
  return {
    entries :=
      (place, some text) ::
        tree.entries.filter (fun entry => entry.1 != place) }

end FileTree

------------------------------------------------------------
-- Examples
------------------------------------------------------------

example :
    (FileTree.ofList [("c/rooms.json", some "[]")]).disk
        "c/./../c//rooms.json" = .text "[]" := by
  decide +kernel

example :
    (FileTree.ofList [("a", some "")]).disk "a/" =
      .nothing := by
  decide +kernel

end TextAdventure
