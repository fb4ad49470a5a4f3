/-
  Disks: what is found at a path.

  Key definitions include:
    * `Found`
    * `Disk`
    * `joinPath`
-/

namespace TextAdventure

/- What is found at a path; a file that is there has a text. -/
inductive Found where
| nothing
| unreadable
| text (content : String)
deriving DecidableEq

/- The files that a game can read. -/
abbrev Disk :=
  String → Found

/- The path of a file in a directory. -/
def joinPath (directory name : String) : String :=
  if directory = "" then name else directory ++ "/" ++ name

end TextAdventure
