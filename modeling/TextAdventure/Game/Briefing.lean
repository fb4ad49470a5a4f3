import TextAdventure.Session.Basic
import TextAdventure.World.Basic

/-
  Briefings: what a writer of text has to know about a game
  to stay true to it.

  Key definitions include:
    * `Briefing`
    * `Briefing.capture`
-/

namespace TextAdventure

/- The room the player is in, by name. -/
structure RoomSummary where
  id : String
  name : String := ""
  region : String := ""
deriving DecidableEq

/- A summary of a game as it stands. -/
structure Briefing where
  currentRoom : RoomSummary
  playerState : PlayerState
  inventory : List String
  unsolvedHints : List String
  turn : UInt64
deriving DecidableEq

namespace RoomSummary

/- The summary of a room, also of one that is not there. -/
def capture (world : World) (id : String) : RoomSummary :=
  match world.room? id with
  | some room =>
      { id := room.id, name := room.name,
        region := room.region }
  | none => { id }

end RoomSummary

namespace Briefing

/- The names of the things carried, in inventory order. -/
def carriedNames (world : World) (session : Session) :
    List String :=
  (session.inventory.filterMap world.thing?).map Thing.name

/- The hints of the puzzles still to solve, in order. -/
def openHints (world : World) : List String :=
  (world.puzzles.filter (fun puzzle => !puzzle.solved)).filterMap
    Puzzle.hint

/- The summary of a world and a session. -/
def capture (world : World) (session : Session) : Briefing where
  currentRoom := .capture world session.currentRoom
  playerState := session.playerState
  inventory := carriedNames world session
  unsolvedHints := openHints world
  turn := session.turn

end Briefing

end TextAdventure
