import TextAdventure.Room.ExitKey
import TextAdventure.World.Reach

/-
  Moving things and unblocking exits.

  `relocate` is the only way in which a thing moves. It keeps
  the listings of rooms in step with placements, and what
  leaves the player's hands is no longer worn.

  Key definitions include:
    * `World.relocate`
    * `World.unblockExit`
-/

namespace TextAdventure

namespace World

------------------------------------------------------------
-- Relocation
------------------------------------------------------------

/- Why a thing cannot be moved to a place. -/
def targetFault?
    (world : World)
    (id : String) : Placement → Option WorldFault
| .room room =>
    if Catalog.has room world.rooms then none
    else some (.unknownRoom room)
| .container container =>
    if !Catalog.has container world.things then
      some (.unknownThing container)
    else if world.wouldContainCycle id container then
      some (.containmentCycle id)
    else
      none
| .carried => none
| .nowhere => none

/- A thing at a place; only what is carried stays worn. -/
def placeThing (target : Placement) (thing : Thing) : Thing :=
  { thing with
      placement := target
      isWorn := thing.isWorn && target.isCarried }

/- Rooms after a thing has left a place. -/
def unlistFrom
    (id : String)
    (rooms : List Room) : Placement → List Room
| .room old =>
    Catalog.update old (fun room => room.unlist id) rooms
| _ => rooms

/- Rooms after a thing has come to a place. -/
def listAt
    (id : String)
    (rooms : List Room) : Placement → List Room
| .room new =>
    Catalog.update new (fun room => room.list id) rooms
| _ => rooms

/- The world with a thing moved, and where the thing was. -/
def relocate
    (world : World)
    (id : String)
    (target : Placement) :
    Except WorldFault (World × Placement) :=
  match world.thing? id with
  | none => .error (.unknownThing id)
  | some thing =>
      match world.targetFault? id target with
      | some fault => .error fault
      | none =>
          let rooms := unlistFrom id world.rooms thing.placement
          let moved :=
            { world with
                things :=
                  Catalog.update id (placeThing target)
                    world.things
                rooms := listAt id rooms target }
          .ok (moved.markChanged id, thing.placement)

------------------------------------------------------------
-- Exits
------------------------------------------------------------

/-
  The world with the exit of a key unblocked, and whether it
  was blocked.
-/
def unblockExit
    (world : World)
    (text : String) : Except WorldFault (World × Bool) :=
  match ExitKey.ofText? text with
  | none => .error (.invalidExitKey text)
  | some key =>
      match world.room? key.room with
      | none => .error (.unknownRoom key.room)
      | some room =>
          match room.exit? key.direction with
          | none => .error (.invalidExitKey text)
          | some exit =>
              let unblocked :=
                world.updateRoom key.room (fun room =>
                  room.updateExit key.direction
                    Exit.unblocked)
              .ok (unblocked, exit.blocked)

end World

end TextAdventure
