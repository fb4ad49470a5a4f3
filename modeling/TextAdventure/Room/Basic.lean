import TextAdventure.Direction

/-
  Rooms and their exits.

  Key definitions include:
    * `Exit`
    * `Room`
    * `Room.exit?`
    * `Room.updateExit`
-/

namespace TextAdventure

------------------------------------------------------------
-- Exits
------------------------------------------------------------

/-
  A way out of a room. A door is a thing that has to be open;
  a blocked exit cannot be used until something unblocks it.
-/
structure Exit where
  direction : Direction
  destination : String
  door : Option String := none
  blocked : Bool := false
  blockedMessage : Option String := none
deriving DecidableEq

namespace Exit

/- The exit with a door. -/
def withDoor (exit : Exit) (door : String) : Exit :=
  { exit with door := some door }

/- The exit blocked, with what the player is told. -/
def blockedBy (exit : Exit) (message : String) : Exit :=
  { exit with
      blocked := true
      blockedMessage := some message }

/- The exit unblocked. -/
def unblocked (exit : Exit) : Exit :=
  { exit with blocked := false }

end Exit

------------------------------------------------------------
-- Rooms
------------------------------------------------------------

/-
  A place. `things` lists the ids of the things that lie in
  it, and `layer` says from which stage of the story on it
  belongs to the world.
-/
structure Room where
  id : String
  name : String
  region : String := ""
  description : String := ""
  darkDescription : Option String := none
  isDark : Bool := false
  visited : Bool := false
  exits : List Exit := []
  things : List String := []
  layer : UInt32 := 0
deriving DecidableEq

namespace Room

/- The first exit in a direction. -/
def exit? (room : Room) (direction : Direction) : Option Exit :=
  room.exits.find? (fun exit => exit.direction == direction)

/- A list with its first exit in a direction changed. -/
def updateFirstExit
    (direction : Direction)
    (change : Exit → Exit) :
    List Exit → List Exit
| [] => []
| exit :: rest =>
    if exit.direction = direction then
      change exit :: rest
    else
      exit :: updateFirstExit direction change rest

/- The room with its first exit in a direction changed. -/
def updateExit
    (room : Room)
    (direction : Direction)
    (change : Exit → Exit) : Room :=
  { room with
      exits := updateFirstExit direction change room.exits }

/- The room with an exit added after the others. -/
def withExit (room : Room) (exit : Exit) : Room :=
  { room with exits := room.exits ++ [exit] }

/- The room made dark, with what is shown there. -/
def darkened
    (room : Room)
    (description : Option String) : Room :=
  { room with
      isDark := true
      darkDescription := description }

/- The room without a thing in its listing. -/
def unlist (room : Room) (thing : String) : Room :=
  { room with
      things := room.things.filter (fun id => id != thing) }

/- The room with a thing listed last, unless it is listed. -/
def list (room : Room) (thing : String) : Room :=
  if room.things.contains thing then
    room
  else
    { room with things := room.things ++ [thing] }

end Room

end TextAdventure
