import TextAdventure.Scene.Basic
import TextAdventure.Warning

/-
  Changes of a scene, in which world and session keep step.

  What is carried is in the inventory and what is worn is in
  the list of worn things. Taking off the thing of the void
  rule, in whatever way, ends the void.

  Key definitions include:
    * `Scene.place`
    * `Scene.setWorn`
    * `Scene.enterRoom`
    * `Scene.applyEffect`
-/

namespace TextAdventure

namespace Scene

------------------------------------------------------------
-- Wearing
------------------------------------------------------------

/-
  Leave the void once its thing is off. The player is again
  as before, which is normal if nothing was remembered.
-/
def afterUnworn (scene : Scene) (thing : String) : Scene :=
  if scene.world.rules.isVoidThing thing &&
      scene.session.playerState == .void then
    { scene with
        session :=
          { scene.session with
              playerState :=
                scene.session.suspendedState.getD .normal
              suspendedState := none } }
  else
    scene

/- Set whether a thing is worn. -/
def setWorn
    (scene : Scene)
    (thing : String)
    (worn : Bool) : Scene :=
  let marked :=
    scene.updateThing thing
      (fun thing => { thing with isWorn := worn })
  if worn then
    { marked with session := marked.session.putOn thing }
  else
    { marked with
        session := marked.session.takeOff thing
      }.afterUnworn thing

------------------------------------------------------------
-- Placing
------------------------------------------------------------

/- The scene with a thing moved. -/
def place
    (scene : Scene)
    (thing : String)
    (target : Placement) : Except WorldFault Scene :=
  match scene.world.relocate thing target with
  | .error fault => .error fault
  | .ok (world, _) =>
      if target.isCarried then
        .ok
          { world := world
            session := scene.session.addItem thing }
      else
        let left : Scene :=
          { world := world
            session := scene.session.removeItem thing }
        if scene.world.isWorn thing then
          .ok (left.afterUnworn thing)
        else
          .ok left

------------------------------------------------------------
-- Moving The Player
------------------------------------------------------------

/- The scene with the player in another room. -/
def enterRoom (scene : Scene) (room : String) : Scene where
  world := scene.world.visit room
  session :=
    { scene.session with
        currentRoom := room
        previousRoom := some scene.session.currentRoom
      }.recordVisit room

------------------------------------------------------------
-- Effects
------------------------------------------------------------

/- The scene with another condition of the player. -/
def setPlayerState
    (scene : Scene)
    (state : PlayerState) : Scene :=
  { scene with
      session := { scene.session with playerState := state } }

/- The scene with a flag set. -/
def setFlag
    (scene : Scene)
    (flag : String)
    (value : Value) : Scene :=
  { scene with session := scene.session.setFlag flag value }

/- Unblock an exit and remember that it was opened. -/
def unlockExit (scene : Scene) (exit : String) : Logged Scene :=
  match scene.world.unblockExit exit with
  | .ok (world, _) =>
      .silent
        { world := world
          session := scene.session.recordOpened exit }
  | .error _ =>
      { value := scene, warnings := [.exitNotUnlocked exit] }

/- Let a hidden thing be seen. -/
def reveal (scene : Scene) (thing : String) : Logged Scene :=
  match scene.world.thing? thing with
  | some _ =>
      .silent
        (scene.updateThing thing
          (fun thing => { thing with hidden := false }))
  | none =>
      { value := scene, warnings := [.unknownRevealed thing] }

/- Move a thing to a room. -/
def moveThing (scene : Scene) (thing room : String) :
    Logged Scene :=
  match scene.place thing (.room room) with
  | .ok moved => .silent moved
  | .error _ =>
      { value := scene
        warnings :=
          [.relocationRefused thing, .thingNotMoved thing room] }

/- Put a carried thing on the player, or take a thing off. -/
def setWornIfCarried
    (scene : Scene)
    (id : String)
    (worn : Bool) : Logged Scene :=
  match scene.world.thing? id with
  | none =>
      { value := scene, warnings := [.wornStateOfUnknown id] }
  | some thing =>
      if worn && !thing.placement.isCarried then
        { value := scene, warnings := [.wearingUncarried id] }
      else if worn == thing.isWorn then
        .silent scene
      else
        .silent (scene.setWorn id worn)

/- A thing with a value written, if it may be written. -/
def writeProperty
    (path : String)
    (value : Value)
    (thing : Thing) : Thing :=
  (thing.setProperty? path value).getD thing

/- Write a property of a thing. -/
def setProperty
    (scene : Scene)
    (id path : String)
    (value : Value) : Logged Scene :=
  let changed := scene.updateThing id (writeProperty path value)
  match
      (scene.world.thing? id).bind
        (fun thing => thing.setProperty? path value) with
  | some _ => .silent changed
  | none =>
      { value := changed, warnings := [.propertyNotSet id path] }

/-
  Apply an effect. An effect comes from content, so one that
  cannot be applied is passed over with a warning.
-/
def applyEffect (scene : Scene) : Effect → Logged Scene
| .unlockExit exit => scene.unlockExit exit
| .revealThing thing => scene.reveal thing
| .setFlag flag value => .silent (scene.setFlag flag value)
| .moveThing thing room => scene.moveThing thing room
| .triggerEvent event =>
    .silent (scene.setFlag (eventFlag event) (.boolean true))
| .setProperty thing path value =>
    if Property.ofPath? path = some .worn then
      scene.setWornIfCarried thing value.isTruthy
    else
      scene.setProperty thing path value
| .setPlayerState state =>
    .silent (scene.setPlayerState state)

/- Apply effects in order. -/
def applyEffects (scene : Scene) : List Effect → Logged Scene
| [] => .silent scene
| effect :: rest =>
    (scene.applyEffect effect).bind
      (fun after => applyEffects after rest)

end Scene

end TextAdventure
