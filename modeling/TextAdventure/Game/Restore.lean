import TextAdventure.Game.Fault
import TextAdventure.Scene.Basic
import TextAdventure.Warning

/-
  Resuming a session in a world that is loaded afresh.

  What the session remembers of things, puzzles, exits and
  rooms is laid over the world. A save is not trusted: what
  it names in vain is passed over, and the lists of carried
  and worn things follow the world.

  Key definitions include:
    * `World.restoreThings`
    * `Scene.reconcile`
    * `Scene.restore`
-/

namespace TextAdventure

------------------------------------------------------------
-- Laying A Session Over A World
------------------------------------------------------------

namespace World

/- The saved things that the world has, by id. -/
def knownStates (world : World) (session : Session) :
    List (String × ThingState) :=
  session.thingStates.entries.filter (fun entry =>
    Catalog.has entry.1 world.things)

/- Warnings about saved things that the world does not have. -/
def unknownThingWarnings (world : World) (session : Session) :
    List Warning :=
  (session.thingStates.entries.filter (fun entry =>
    !Catalog.has entry.1 world.things)).map
      (fun entry => .savedUnknownThing entry.1)

/- The world with a thing taken out of every place. -/
def liftOut (world : World) (id : String) : World :=
  match world.relocate id .nowhere with
  | .ok (lifted, _) => lifted
  | .error _ => world

/- Put one thing where it was saved and as it was saved. -/
def restoreThing
    (world : World)
    (id : String)
    (state : ThingState) : Logged World :=
  let placed : Logged World :=
    match world.relocate id state.placement with
    | .ok (moved, _) => .silent moved
    | .error _ =>
        { value := world
          warnings := [.savedPlacementRefused id] }
  placed.map (fun moved => moved.updateThing id state.applyFlags)

/- Put things where they were saved, in order. -/
def restoreEach (world : World) :
    List (String × ThingState) → Logged World
| [] => .silent world
| (id, state) :: rest =>
    (world.restoreThing id state).bind
      (fun after => restoreEach after rest)

/-
  Restore all things. They are taken out of their places
  first, so that no order of moves can form a cycle.
-/
def restoreThings (world : World) (session : Session) :
    Logged World :=
  let known := world.knownStates session
  let lifted :=
    known.foldl (fun world entry => world.liftOut entry.1) world
  (lifted.restoreEach known).after
    (world.unknownThingWarnings session)

/- Mark puzzles as solved, in order. -/
def restorePuzzles (world : World) : List String → Logged World
| [] => .silent world
| id :: rest =>
    let marked : Logged World :=
      if Catalog.has id world.puzzles then
        .silent (world.markSolved id)
      else
        { value := world, warnings := [.savedUnknownPuzzle id] }
    marked.bind (fun after => restorePuzzles after rest)

/- Unblock exits, in order. -/
def restoreExits (world : World) : List String → Logged World
| [] => .silent world
| key :: rest =>
    let opened : Logged World :=
      match world.unblockExit key with
      | .ok (after, _) => .silent after
      | .error _ =>
          { value := world, warnings := [.savedUnknownExit key] }
    opened.bind (fun after => restoreExits after rest)

/- Take off what is worn but not carried. -/
def takeOffStray (world : World) : Logged World :=
  let stray :=
    (world.things.filter (fun thing =>
      thing.isWorn && !thing.placement.isCarried)).map Thing.id
  { value :=
      stray.foldl
        (fun world id =>
          world.updateThing id
            (fun thing => { thing with isWorn := false }))
        world
    warnings := stray.map Warning.savedWornUncarried }

end World

------------------------------------------------------------
-- Reconciling The Lists
------------------------------------------------------------

namespace Scene

/- The first of each repeated text, in order. -/
def distinct (texts : List String) : List String :=
  texts.foldl
    (fun seen text =>
      if seen.contains text then seen else seen ++ [text])
    []

/- The saved inventory entries that are carried. -/
def keptItems (world : World) (session : Session) :
    List String :=
  distinct (session.inventory.filter world.isCarried)

/- The carried things that a list lacks, in content order. -/
def missingItems (world : World) (kept : List String) :
    List String :=
  ((world.things.filter (fun thing =>
    thing.placement.isCarried)).map Thing.id).filter
      (fun id => !kept.contains id)

/-
  The lists of a session, made to follow the world. What was
  saved keeps its order.
-/
def reconcile (world : World) (session : Session) :
    Logged Session :=
  let kept := keptItems world session
  let missing := distinct (missingItems world kept)
  let inventory := kept ++ missing
  let worn :=
    distinct ((session.worn ++ inventory).filter (fun id =>
      inventory.contains id && world.isWorn id))
  { value := { session with inventory, worn }
    warnings :=
      (session.inventory.filter (fun id =>
        !world.isCarried id)).map
          Warning.inventoryEntryDropped ++
      missing.map Warning.inventoryEntryAdded }

/-
  The scene of a session resumed in a world. Only a current
  room that the world does not have stands in the way.
-/
def restore (world : World) (session : Session) :
    Except GameFault (Logged Scene) :=
  if Catalog.has session.currentRoom world.rooms then
    let laid :=
      (((world.restoreThings session).bind (fun world =>
        world.restorePuzzles session.solvedPuzzles)).bind
          (fun world =>
            world.restoreExits session.openedExits)).map
              (fun world =>
                session.visitedRooms.foldl World.visit world)
    .ok
      ((laid.bind World.takeOffStray).bind (fun world =>
        (reconcile world session).map (fun session =>
          { world := world.forgetChanges
            session := session })))
  else
    .error (.unknownCurrentRoom session.currentRoom)

end Scene

end TextAdventure
