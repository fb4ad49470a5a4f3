import TextAdventure.Content.Validation
import TextAdventure.Disk.Basic
import TextAdventure.Format.Entity
import TextAdventure.Json.Reader

/-
  Content that is read from a directory of files.

  Rooms, things and puzzles have to be there and must not be
  empty; scripts and rules may be left out. Without a start
  room the first room is the one to start in.

  Key definitions include:
    * `ContentFault`
    * `Content.ofDirectory`
-/

namespace TextAdventure

------------------------------------------------------------
-- Faults
------------------------------------------------------------

/- Why a directory gives no content. -/
inductive ContentFault where
| unreadable (file : String)
| malformed (file : String)
| empty
| world (fault : WorldFault)
deriving DecidableEq

/- What a fault says. -/
def ContentFault.message : ContentFault → String
| .unreadable file => "cannot read " ++ file
| .malformed file => "cannot parse " ++ file
| .empty => "content is empty"
| .world fault => fault.message

namespace Content

------------------------------------------------------------
-- Files
------------------------------------------------------------

variable {α : Type}

/- The data in the text of a file. -/
def sectionOfText
    (file text : String)
    (decode : Json → Option α) : Except ContentFault α :=
  match (Json.parse? text).bind decode with
  | some value => .ok value
  | none => .error (.malformed file)

/- The data in a file that has to be there. -/
def requiredSection
    (disk : Disk)
    (directory file : String)
    (decode : Json → Option α) : Except ContentFault α :=
  match disk (joinPath directory file) with
  | .text text => sectionOfText file text decode
  | .unreadable => .error (.unreadable file)
  | .nothing => .error (.unreadable file)

/- The data in a file that may be left out. -/
def optionalSection
    (disk : Disk)
    (directory file : String)
    (default : α)
    (decode : Json → Option α) : Except ContentFault α :=
  match disk (joinPath directory file) with
  | .text text => sectionOfText file text decode
  | .unreadable => .error (.unreadable file)
  | .nothing => .ok default

------------------------------------------------------------
-- Directories
------------------------------------------------------------

/- Rules that start in the first room if they name none. -/
def withStartRoom (rooms : List Room) (rules : StoryRules) :
    StoryRules :=
  match rooms with
  | room :: _ =>
      if rules.startRoom = "" then
        { rules with startRoom := room.id }
      else
        rules
  | [] => rules

/- The content in the files of a directory, not yet checked. -/
def readDirectory (disk : Disk) (directory : String) :
    Except ContentFault Content := do
  let rooms ←
    requiredSection disk directory "rooms.json"
      (Json.list? Room.ofJson?)
  let things ←
    requiredSection disk directory "objects.json"
      (Json.list? Thing.ofJson?)
  let puzzles ←
    requiredSection disk directory "puzzles.json"
      (Json.list? Puzzle.ofJson?)
  if rooms.isEmpty || things.isEmpty || puzzles.isEmpty then
    .error .empty
  else
    let scripts ←
      optionalSection disk directory "scripts.json" []
        (Json.list? Script.ofJson?)
    let rules ←
      optionalSection disk directory "rules.json" {}
        StoryRules.ofJson?
    let rules := withStartRoom rooms rules
    return { rules, rooms, things, puzzles, scripts }

/- The content in a directory, with the warnings of its check. -/
def ofDirectory (disk : Disk) (directory : String) :
    Logged (Except ContentFault Content) :=
  match readDirectory disk directory with
  | .error fault => .silent (.error fault)
  | .ok content =>
      content.validate.map (fun checked =>
        match checked with
        | .ok () => .ok content
        | .error fault => .error (.world fault))

end Content

end TextAdventure
