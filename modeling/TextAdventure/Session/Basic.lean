import TextAdventure.Session.Id
import TextAdventure.Story
import TextAdventure.Thing.State

/-
  Sessions: the progress of one play-through.

  With the content, a session is all that is needed to go on
  playing.

  Key definitions include:
    * `Session`
    * `Session.starting`
    * `Session.hasFlag`
-/

namespace TextAdventure

------------------------------------------------------------
-- Sessions
------------------------------------------------------------

/-
  The progress of a play-through. Lists of ids stand in the
  order in which things were picked up or put on, puzzles
  solved, rooms first entered and exits opened.
-/
structure Session where
  id : SessionId
  currentRoom : String
  previousRoom : Option String := none
  inventory : List String := []
  worn : List String := []
  playerState : PlayerState := .normal
  suspendedState : Option PlayerState := none
  flags : Dict Value := .empty
  solvedPuzzles : List String := []
  turn : UInt64 := 0
  visitedRooms : List String := []
  thingStates : Dict ThingState := .empty
  openedExits : List String := []
deriving DecidableEq

namespace Session

/- A session that starts in a room. -/
def starting (id : SessionId) (room : String) : Session where
  id := id
  currentRoom := room
  visitedRooms := [room]

------------------------------------------------------------
-- Reading
------------------------------------------------------------

/- Whether a thing is in the inventory. -/
def hasItem (session : Session) (thing : String) : Bool :=
  session.inventory.contains thing

/- Whether a thing is in the list of worn things. -/
def isWearing (session : Session) (thing : String) : Bool :=
  session.worn.contains thing

/- Whether a puzzle is in the list of solved ones. -/
def isSolved (session : Session) (puzzle : String) : Bool :=
  session.solvedPuzzles.contains puzzle

/- The value of a flag. -/
def flag? (session : Session) (flag : String) : Option Value :=
  session.flags.get? flag

/- Whether a flag is set to something true. -/
def hasFlag (session : Session) (flag : String) : Bool :=
  match session.flag? flag with
  | some value => value.isTruthy
  | none => false

------------------------------------------------------------
-- Changing
------------------------------------------------------------

/- Set a flag. -/
def setFlag
    (session : Session)
    (flag : String)
    (value : Value) : Session :=
  { session with flags := session.flags.insert flag value }

/- Add a thing to the inventory, unless it is there. -/
def addItem (session : Session) (thing : String) : Session :=
  if session.hasItem thing then
    session
  else
    { session with inventory := session.inventory ++ [thing] }

/- Take a thing out of the inventory and off the player. -/
def removeItem (session : Session) (thing : String) : Session :=
  { session with
      inventory := session.inventory.filter (· != thing)
      worn := session.worn.filter (· != thing) }

/- Put a thing on the player, unless it is worn. -/
def putOn (session : Session) (thing : String) : Session :=
  if session.isWearing thing then
    session
  else
    { session with worn := session.worn ++ [thing] }

/- Take a thing off the player. -/
def takeOff (session : Session) (thing : String) : Session :=
  { session with worn := session.worn.filter (· != thing) }

/- Remember a room as visited. -/
def recordVisit (session : Session) (room : String) : Session :=
  if session.visitedRooms.contains room then
    session
  else
    { session with
        visitedRooms := session.visitedRooms ++ [room] }

/- Remember an exit as opened. -/
def recordOpened (session : Session) (exit : String) : Session :=
  if session.openedExits.contains exit then
    session
  else
    { session with
        openedExits := session.openedExits ++ [exit] }

end Session

end TextAdventure
