import TextAdventure.World.Basic

/-
  What the player can reach, holds and sees by.

  Chains of containers are followed for at most one step more
  than there are things; only a chain that never ends is
  longer.

  Key definitions include:
    * `World.isAccessible`
    * `World.isHeld`
    * `World.wouldContainCycle`
    * `World.hasLight`
-/

namespace TextAdventure

namespace World

/- The steps after which a chain of containers is endless. -/
def chainLimit (world : World) : Nat :=
  world.things.length + 1

/- Whether a thing is known and open for what it contains. -/
def isOpenContainer (world : World) (id : String) : Bool :=
  match world.thing? id with
  | some thing => thing.isOpenContainer
  | none => false

/- Whether a thing can be reached, in a number of steps. -/
def accessibleWithin (world : World) (room : String) :
    Nat → String → Bool
| 0, _ => false
| steps + 1, id =>
    match world.thing? id with
    | none => false
    | some thing =>
        match thing.placement with
        | .carried => true
        | .room here => here == room && !thing.hidden
        | .container container =>
            !thing.hidden &&
              world.isOpenContainer container &&
              accessibleWithin world room steps container
        | .nowhere => false

/-
  Whether the player in a room can reach a thing. What is
  carried can be reached; anything else must not be hidden
  and lie in the room, or in an open container that can be
  reached.
-/
def isAccessible (world : World) (room id : String) : Bool :=
  world.accessibleWithin room world.chainLimit id

/- Whether a thing is in hand, in a number of steps. -/
def heldWithin (world : World) : Nat → String → Bool
| 0, _ => false
| steps + 1, id =>
    match (world.thing? id).map Thing.placement with
    | some .carried => true
    | some (.container container) =>
        heldWithin world steps container
    | _ => false

/- Whether a thing is carried, or in something that is. -/
def isHeld (world : World) (id : String) : Bool :=
  world.heldWithin world.chainLimit id

/-
  Whether a chain of containers meets a thing or has no end,
  in a number of steps.
-/
def chainMeets (world : World) (thing : String) :
    Nat → String → Bool
| 0, _ => true
| steps + 1, id =>
    if id = thing then
      true
    else
      match
          (world.thing? id).bind
            (fun found => found.placement.container?) with
      | some container => chainMeets world thing steps container
      | none => false

/- Whether a thing in a container would be inside itself. -/
def wouldContainCycle
    (world : World)
    (thing container : String) : Bool :=
  world.chainMeets thing world.chainLimit container

/- Whether a thing in a room or in hand gives light there. -/
def hasLight (world : World) (room : String) : Bool :=
  world.things.any (fun thing =>
    thing.givesLight &&
      (thing.placement.isCarried ||
        thing.placement.room? == some room))

/- Whether a thing is known and carried. -/
def isCarried (world : World) (id : String) : Bool :=
  match world.thing? id with
  | some thing => thing.placement.isCarried
  | none => false

/- Whether a thing is known and worn. -/
def isWorn (world : World) (id : String) : Bool :=
  match world.thing? id with
  | some thing => thing.isWorn
  | none => false

end World

end TextAdventure
