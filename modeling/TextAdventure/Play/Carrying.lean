import TextAdventure.Play.Basic
import TextAdventure.Scene.Change

/-
  Verbs that move things: take, drop, put, wear and remove.

  Key definitions include:
    * `Scene.take`
    * `Scene.put`
    * `Scene.wearThing`
    * `Scene.remove`
-/

namespace TextAdventure

namespace Scene

------------------------------------------------------------
-- Taking And Putting
------------------------------------------------------------

/- The scene with a thing moved, unless that is refused. -/
def move
    (scene : Scene)
    (thing : Thing)
    (target : Placement) : Except Refusal Scene :=
  match scene.place thing.id target with
  | .ok moved => .ok moved
  | .error _ => .error (.relocationRefused thing.id)

/- The scene with a thing in the player's hands. -/
def pickUp (scene : Scene) (thing : Thing) :
    Except Refusal Scene := do
  check (!thing.placement.isCarried)
    (.alreadyCarried thing.name)
  check thing.isPortable (.cannotTake thing.name)
  scene.move thing .carried

/- Take a thing. -/
def take (scene : Scene) (command : Command) : Handled := do
  let thing ← scene.target command .take
  let after ← scene.pickUp thing
  return (after,
    .about thing ("You take the " ++ thing.name ++ "."))

/- Drop a carried thing. -/
def drop (scene : Scene) (command : Command) : Handled := do
  let thing ← scene.target command .drop
  check thing.placement.isCarried (.notCarried thing.name)
  let after ←
    scene.move thing (.room scene.session.currentRoom)
  return (after,
    .about thing ("You drop the " ++ thing.name ++ "."))

/- The word for putting things into or onto others. -/
def putWord (command : Command) : String :=
  if command.preposition = some "on" then "on" else "in"

/- Put a carried thing into an open container. -/
def put (scene : Scene) (command : Command) : Handled := do
  let thing ← scene.target command .put
  let noun ←
    demand command.secondNoun (.missingDestination thing.name)
  check thing.placement.isCarried (.notCarried thing.name)
  let container ← scene.named noun
  check
    (!(container.id == thing.id) &&
      !scene.world.wouldContainCycle thing.id container.id)
    (.insideItself thing.name)
  check container.isContainer (.notAContainer container.name)
  check container.isOpenContainer
    (.containerClosed container.name)
  let after ← scene.move thing (.container container.id)
  return (after,
    .about thing
      ("You put the " ++ thing.name ++ " " ++
        putWord command ++ " the " ++ container.name ++ "."))

------------------------------------------------------------
-- Wearing
------------------------------------------------------------

/- Whether a thing may be worn in the current room. -/
def hasHoldHere (scene : Scene) (thing : Thing) : Bool :=
  match scene.world.rules.void with
  | some rule =>
      rule.thing != thing.id ||
        rule.room == scene.session.currentRoom
  | none => true

/- Become the void, unless the player is it. -/
def enterVoid (scene : Scene) : Scene :=
  { scene with
      session :=
        { scene.session with
            suspendedState := some scene.session.playerState
            playerState := .void } }

/- Whether putting on a thing turns the player into the void. -/
def turnsIntoVoid (scene : Scene) (thing : Thing) : Bool :=
  scene.world.rules.isVoidThing thing.id &&
    scene.session.playerState != .void

/- What is told when a thing is put on. -/
def wearText
    (scene : Scene)
    (thing : Thing) : String :=
  Text.joinLines
    [if thing.placement.isCarried then ""
      else "(first taking the " ++ thing.name ++ ")",
      "You put on the " ++ thing.name ++ ".",
      if scene.turnsIntoVoid thing then
        "The darkness closes over you. You are the void."
      else
        ""]

/- Put on a thing, which is picked up first if need be. -/
def wearThing (scene : Scene) (thing : Thing) : Handled := do
  check thing.isWearable (.notWearable thing.name)
  check (!thing.isWorn) (.alreadyWorn thing.name)
  check (scene.hasHoldHere thing) (.noHoldHere thing.name)
  let held ←
    if thing.placement.isCarried then .ok scene
    else scene.pickUp thing
  let worn := held.setWorn thing.id true
  let after :=
    if scene.turnsIntoVoid thing then worn.enterVoid else worn
  return (after, .about thing (scene.wearText thing))

/- Put on a thing. -/
def wear (scene : Scene) (command : Command) : Handled := do
  let thing ← scene.target command .wear
  scene.wearThing thing

/- Take off a worn thing. -/
def remove (scene : Scene) (command : Command) : Handled := do
  let thing ← scene.target command .remove
  check thing.isWorn (.notWorn thing.name)
  let after := scene.setWorn thing.id false
  let returned :=
    scene.session.playerState == .void &&
      after.session.playerState != .void
  return (after,
    .about thing
      ("You take off the " ++ thing.name ++ "." ++
        if returned then " You are yourself again." else ""))

end Scene

end TextAdventure
