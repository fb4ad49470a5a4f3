import TextAdventure.Catalog
import TextAdventure.Puzzle
import TextAdventure.Room.Basic
import TextAdventure.Thing.Basic

/-
  Content: the template that a world is built from.

  Key definitions include:
    * `Content`
    * `Content.placeListed`
    * `WorldFault`
-/

namespace TextAdventure

------------------------------------------------------------
-- Entities
------------------------------------------------------------

instance : Identified Room := ⟨Room.id⟩

instance : Identified Thing := ⟨Thing.id⟩

instance : Identified Puzzle := ⟨Puzzle.id⟩

@[simp] theorem idOf_room (room : Room) :
    Identified.idOf room = room.id := rfl

@[simp] theorem idOf_thing (thing : Thing) :
    Identified.idOf thing = thing.id := rfl

@[simp] theorem idOf_puzzle (puzzle : Puzzle) :
    Identified.idOf puzzle = puzzle.id := rfl

/- The kinds of entity that have ids of their own. -/
inductive EntityKind where
| room
| thing
| puzzle
deriving DecidableEq

/- The word for a kind of entity. -/
def EntityKind.name : EntityKind → String
| .room => "room"
| .thing => "object"
| .puzzle => "puzzle"

------------------------------------------------------------
-- Faults
------------------------------------------------------------

/- Why content, or a change of the world, is refused. -/
inductive WorldFault where
| duplicateId (kind : EntityKind) (id : String)
| unknownRoom (id : String)
| unknownThing (id : String)
| containmentCycle (id : String)
| invalidExitKey (key : String)
deriving DecidableEq

/- What a fault says. -/
def WorldFault.message : WorldFault → String
| .duplicateId kind id =>
    "duplicate " ++ kind.name ++ " id: \"" ++ id ++ "\""
| .unknownRoom id => "unknown room: \"" ++ id ++ "\""
| .unknownThing id => "unknown object: \"" ++ id ++ "\""
| .containmentCycle id =>
    "containment cycle through object \"" ++ id ++ "\""
| .invalidExitKey key => "invalid exit key: \"" ++ key ++ "\""

------------------------------------------------------------
-- Content
------------------------------------------------------------

/- The rooms, things, puzzles, scripts and rules of a story. -/
structure Content where
  rules : StoryRules := {}
  rooms : List Room := []
  things : List Thing := []
  puzzles : List Puzzle := []
  scripts : List Script := []
deriving DecidableEq

namespace Content

instance : Inhabited Content := ⟨{}⟩

/- Whether there is nothing to play. -/
def isEmpty (content : Content) : Bool :=
  content.rooms.isEmpty

/- The first room that lists a thing. -/
def listingRoom?
    (rooms : List Room)
    (thing : String) : Option String :=
  (rooms.find? (fun room => room.things.contains thing)).map
    Room.id

/- A thing that is nowhere, put where it is first listed. -/
def placeWhereListed (rooms : List Room) (thing : Thing) :
    Thing :=
  match thing.placement, listingRoom? rooms thing.id with
  | .nowhere, some room =>
      { thing with placement := .room room }
  | _, _ => thing

/- The content with things that are nowhere put where listed. -/
def placeListed (content : Content) : Content :=
  { content with
      things :=
        content.things.map (placeWhereListed content.rooms) }

end Content

end TextAdventure
