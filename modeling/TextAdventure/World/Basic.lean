import TextAdventure.Content.Basic
import TextAdventure.Text.Blank
import TextAdventure.Thing.Property

/-
  The world of one session: the entities of the content and
  what play has made of them.

  Every entity keeps its place in the content. The listing of
  a room and the placements of things say the same; things
  changed since the last collection are remembered.

  Key definitions include:
    * `World`
    * `World.ofContent`
    * `World.updateThing`
    * `World.findWhere?`
-/

namespace TextAdventure

------------------------------------------------------------
-- Worlds
------------------------------------------------------------

/- The entities of a session and the ids of changed things. -/
structure World where
  rules : StoryRules := {}
  rooms : List Room := []
  things : List Thing := []
  puzzles : List Puzzle := []
  scripts : List Script := []
  changed : List String := []
deriving DecidableEq

namespace World

instance : Inhabited World := ⟨{}⟩

------------------------------------------------------------
-- Lookup
------------------------------------------------------------

/- The room with an id. -/
def room? (world : World) (id : String) : Option Room :=
  Catalog.find? id world.rooms

/- The thing with an id. -/
def thing? (world : World) (id : String) : Option Thing :=
  Catalog.find? id world.things

/- The puzzle with an id. -/
def puzzle? (world : World) (id : String) : Option Puzzle :=
  Catalog.find? id world.puzzles

/- The scripts of a verb on a thing, in content order. -/
def scriptsFor
    (world : World)
    (thing : String)
    (verb : Verb) : List Script :=
  world.scripts.filter (fun script => script.isFor thing verb)

/- The things a room lists, in listing order. -/
def thingsIn (world : World) (room : String) : List Thing :=
  match world.room? room with
  | some room => room.things.filterMap world.thing?
  | none => []

/- The things directly inside a container. -/
def contentsOf (world : World) (container : String) :
    List Thing :=
  world.things.filter (fun thing =>
    thing.placement.container? == some container)

/-
  The first thing that passes a test and is called by a name,
  in any case. A thing with that very name, id or alias goes
  before one whose name only contains it.
-/
def findWhere?
    (world : World)
    (name : String)
    (test : Thing → Bool) : Option Thing :=
  let name := Text.lowercase (Text.trim name)
  if name = "" then
    none
  else
    (world.things.find? (fun thing =>
      test thing && thing.matchesExactly name)).or
    (world.things.find? (fun thing =>
      test thing && thing.matchesPartially name))

------------------------------------------------------------
-- Changing Entities
------------------------------------------------------------

/- Remember that a thing has changed. -/
def markChanged (world : World) (id : String) : World :=
  if world.changed.contains id then
    world
  else
    { world with changed := world.changed ++ [id] }

/- The world with a room changed. -/
def updateRoom
    (world : World)
    (id : String)
    (change : Room → Room) : World :=
  { world with rooms := Catalog.update id change world.rooms }

/- The world with a known thing changed and remembered. -/
def updateThing
    (world : World)
    (id : String)
    (change : Thing → Thing) : World :=
  if Catalog.has id world.things then
    { world with
        things := Catalog.update id change world.things
      }.markChanged id
  else
    world

/- The world with a puzzle marked as solved. -/
def markSolved (world : World) (id : String) : World :=
  { world with
      puzzles :=
        Catalog.update id
          (fun puzzle => { puzzle with solved := true })
          world.puzzles }

/- Mark a room as visited. -/
def visit (world : World) (room : String) : World :=
  world.updateRoom room
    (fun room => { room with visited := true })

/- Whether a visit to a room would be the first. -/
def isUnvisited (world : World) (room : String) : Bool :=
  match world.room? room with
  | some room => !room.visited
  | none => false

/- The world with no thing remembered as changed. -/
def forgetChanges (world : World) : World :=
  { world with changed := [] }

------------------------------------------------------------
-- Building A World
------------------------------------------------------------

/- The ids of the things placed in a room, in order. -/
def placedIn (things : List Thing) (room : String) :
    List String :=
  (things.filter (fun thing =>
    thing.placement.room? == some room)).map Thing.id

/-
  A listing that agrees with placements: of the listed ids
  those placed here, then those placed here but not listed.
-/
def relist (here : List String) (listed : List String) :
    List String :=
  here.foldl
    (fun ids id =>
      if ids.contains id then ids else ids ++ [id])
    (listed.filter (fun id => here.contains id))

/-
  Rooms with listings that agree with placements. Of rooms
  with one id the first holds the things.
-/
def relistRooms (things : List Thing) :
    List String → List Room → List Room
| _, [] => []
| seen, room :: rest =>
    let here :=
      if seen.contains room.id then []
      else placedIn things room.id
    { room with things := relist here room.things } ::
      relistRooms things (room.id :: seen) rest

/- The world that content describes. -/
def ofContent (content : Content) : World :=
  let content := content.placeListed
  { rules := content.rules
    rooms := relistRooms content.things [] content.rooms
    things := content.things
    puzzles := content.puzzles
    scripts := content.scripts }

end World

end TextAdventure
