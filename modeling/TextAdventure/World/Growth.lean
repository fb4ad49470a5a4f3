import TextAdventure.Warning
import TextAdventure.World.Basic

/-
  Adding content to a world that is being played.

  What is there already wins: an entity whose id is known is
  never replaced, and a connection never replaces an exit.

  Key definitions include:
    * `World.addRoom?`
    * `World.addThing`
    * `World.connect`
    * `MergeReport`
    * `World.merge`
-/

namespace TextAdventure

namespace World

------------------------------------------------------------
-- Single Entities
------------------------------------------------------------

/-
  The world with a new room, which lists only things that
  are placed in it.
-/
def addRoom? (world : World) (room : Room) : Option World :=
  if Catalog.has room.id world.rooms then
    none
  else
    let isHere (id : String) : Bool :=
      match world.thing? id with
      | some thing => thing.placement.room? == some room.id
      | none => false
    let room :=
      { room with things := room.things.filter isHere }
    some { world with rooms := world.rooms ++ [room] }

/- What the placement of a new thing names in vain. -/
def newPlacementFault?
    (world : World)
    (thing : Thing) : Option WorldFault :=
  match thing.placement with
  | .room room =>
      if Catalog.has room world.rooms then none
      else some (.unknownRoom room)
  | .container container =>
      if Catalog.has container world.things then none
      else some (.unknownThing container)
  | .carried => none
  | .nowhere => none

/- Rooms with a thing listed last where it is placed. -/
def listNew (rooms : List Room) (thing : Thing) : List Room :=
  match thing.placement with
  | .room room =>
      Catalog.update room
        (fun room =>
          { room with things := room.things ++ [thing.id] })
        rooms
  | _ => rooms

/-
  The world with a new thing, or nothing if its id is known.
  Its placement has to name what is there.
-/
def addThing
    (world : World)
    (thing : Thing) : Except WorldFault (Option World) :=
  if Catalog.has thing.id world.things then
    .ok none
  else
    match world.newPlacementFault? thing with
    | some fault => .error fault
    | none =>
        .ok (some
          { world with
              rooms := listNew world.rooms thing
              things := world.things ++ [thing] })

/- The world with a new puzzle. -/
def addPuzzle? (world : World) (puzzle : Puzzle) :
    Option World :=
  if Catalog.has puzzle.id world.puzzles then
    none
  else
    some { world with puzzles := world.puzzles ++ [puzzle] }

/- The world with a script for a verb that had none there. -/
def addScript? (world : World) (script : Script) :
    Option World :=
  if world.scripts.any
      (fun old => old.isFor script.thing script.verb) then
    none
  else
    some { world with scripts := world.scripts ++ [script] }

------------------------------------------------------------
-- Connections
------------------------------------------------------------

/- A room with an exit in a direction, if it had none. -/
def joinRoom
    (direction : Direction)
    (destination : String)
    (room : Room) : Room :=
  match room.exit? direction with
  | some _ => room
  | none =>
      room.withExit
        { direction := direction, destination := destination }

/- The world with two rooms connected both ways. -/
def connect
    (world : World)
    (source : String)
    (direction : Direction)
    (target : String) : Except WorldFault World :=
  if !Catalog.has target world.rooms then
    .error (.unknownRoom target)
  else if !Catalog.has source world.rooms then
    .error (.unknownRoom source)
  else
    .ok
      ((world.updateRoom source
          (joinRoom direction target)).updateRoom target
            (joinRoom direction.opposite source))

end World

------------------------------------------------------------
-- Merge Reports
------------------------------------------------------------

/- What a merge has added and what it has skipped. -/
structure MergeReport where
  roomsAdded : List String := []
  thingsAdded : List String := []
  puzzlesAdded : List String := []
  scriptsAdded : UInt64 := 0
  skipped : List String := []
deriving DecidableEq

namespace MergeReport

instance : Inhabited MergeReport := ⟨{}⟩

/- Whether a merge has added nothing. -/
def isEmpty (report : MergeReport) : Bool :=
  report.roomsAdded.isEmpty &&
    report.thingsAdded.isEmpty &&
    report.puzzlesAdded.isEmpty &&
    report.scriptsAdded == 0

/- The report with one more id skipped. -/
def skip (report : MergeReport) (id : String) : MergeReport :=
  { report with skipped := report.skipped ++ [id] }

end MergeReport

------------------------------------------------------------
-- Merging
------------------------------------------------------------

/- A merge under way. -/
structure Merge where
  world : World
  report : MergeReport
deriving DecidableEq

namespace Merge

/- Merge one room. -/
def room (merge : Merge) (room : Room) : Merge :=
  match merge.world.addRoom? room with
  | some world =>
      { world := world
        report :=
          { merge.report with
              roomsAdded :=
                merge.report.roomsAdded ++ [room.id] } }
  | none => { merge with report := merge.report.skip room.id }

/-
  Merge things in order. The result also holds the things
  whose placements name nothing yet.
-/
def thingsOnce (merge : Merge) :
    List Thing → Merge × List Thing
| [] => (merge, [])
| thing :: rest =>
    match merge.world.addThing thing with
    | .ok (some world) =>
        thingsOnce
          { world := world
            report :=
              { merge.report with
                  thingsAdded :=
                    merge.report.thingsAdded ++ [thing.id] } }
          rest
    | .ok none =>
        thingsOnce
          { merge with report := merge.report.skip thing.id }
          rest
    | .error _ =>
        let later := thingsOnce merge rest
        (later.1, thing :: later.2)

/- Skip what could not be placed. -/
def skipThings (merge : Merge) (things : List Thing) : Merge :=
  { merge with
      report :=
        { merge.report with
            skipped :=
              merge.report.skipped ++ things.map Thing.id } }

/-
  Merge things in several passes, since a container may come
  after what it contains. A pass that places nothing is the
  last one. The result also holds what could not be placed.
-/
def things (merge : Merge) :
    Nat → List Thing → Merge × List Thing
| 0, pending => (merge.skipThings pending, pending)
| passes + 1, pending =>
    let pass := merge.thingsOnce pending
    if pass.2.isEmpty ∨ pass.2.length = pending.length then
      (pass.1.skipThings pass.2, pass.2)
    else
      things pass.1 passes pass.2

/- Merge one puzzle. -/
def puzzle (merge : Merge) (puzzle : Puzzle) : Merge :=
  match merge.world.addPuzzle? puzzle with
  | some world =>
      { world := world
        report :=
          { merge.report with
              puzzlesAdded :=
                merge.report.puzzlesAdded ++ [puzzle.id] } }
  | none => { merge with report := merge.report.skip puzzle.id }

/- Merge one script. -/
def script (merge : Merge) (script : Script) : Merge :=
  match merge.world.addScript? script with
  | some world =>
      { world := world
        report :=
          { merge.report with
              scriptsAdded := merge.report.scriptsAdded + 1 } }
  | none => merge

end Merge

/- The world with content merged into it, and a report. -/
def World.merge
    (world : World)
    (content : Content) : Logged (World × MergeReport) :=
  let content := content.placeListed
  let rooms := content.rooms.foldl Merge.room ⟨world, {}⟩
  let placed :=
    rooms.things (content.things.length + 1) content.things
  let puzzles := content.puzzles.foldl Merge.puzzle placed.1
  let scripts := content.scripts.foldl Merge.script puzzles
  { value := (scripts.world, scripts.report)
    warnings :=
      placed.2.map (fun thing =>
        .unresolvedPlacement thing.id) }

end TextAdventure
