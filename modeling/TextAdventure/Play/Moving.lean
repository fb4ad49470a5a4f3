import TextAdventure.Play.Looking
import TextAdventure.Scene.Change

/-
  Verbs that move the player: go, sleep and wake.

  Key definitions include:
    * `Scene.go`
    * `Scene.sleep`
    * `Scene.wake`
-/

namespace TextAdventure

namespace Scene

------------------------------------------------------------
-- Going
------------------------------------------------------------

/- The exit of the current room in a direction, if usable. -/
def usableExit (scene : Scene) (direction : Direction) :
    Except Refusal Exit := do
  let room ← demand scene.room? .nowhere
  let exit ←
    demand (room.exit? direction) (.noExit direction.name)
  check (!exit.blocked)
    (.blocked (exit.blockedMessage.getD
      ("The way " ++ direction.name ++ " is blocked.")))
  check (Catalog.has exit.destination scene.world.rooms)
    (.exitLeadsNowhere direction.name exit.destination)
  return exit

/- The thing that is the door of an exit. -/
def door? (scene : Scene) (exit : Exit) : Option Thing :=
  exit.door.bind scene.world.thing?

/-
  The scene with the door of an exit open, and what is told
  of opening it.
-/
def openDoor (scene : Scene) (exit : Exit) :
    Except Refusal (Scene × String) :=
  match scene.door? exit with
  | none => .ok (scene, "")
  | some door => do
      check (!door.isLocked) (.locked door.name)
      if door.isOpenable && !door.isOpen then
        return (scene.updateThing door.id
            (fun door => { door with isOpen := true }),
          "(first opening the " ++ door.name ++ ")")
      else
        return (scene, "")

/-
  The scene with the player gone through the exit that a
  command names, and what is told of its door.
-/
def passExit (scene : Scene) (command : Command) :
    Except Refusal (Scene × String) := do
  let noun ← demand command.noun (.missingNoun .go)
  let direction ←
    demand (Direction.ofWord? noun) (.notADirection noun)
  let exit ← scene.usableExit direction
  let (opened, told) ← scene.openDoor exit
  return (opened.enterRoom exit.destination, told)

/- Go through the exit in a direction. -/
def go (scene : Scene) (command : Command) : Done :=
  scene.carryOut (scene.passExit command)
    (fun after told => do
      let text ← after.describeRoom
      return { message := Text.joinLines [told, text] })

------------------------------------------------------------
-- Sleeping And Waking
------------------------------------------------------------

/- The dream rule, if the player may fall asleep by it. -/
def sleepRule (scene : Scene) : Except Refusal DreamRule := do
  let rule ← demand scene.world.rules.dream .cannotSleep
  check (scene.session.playerState != .dreaming)
    .alreadyDreaming
  check
    (scene.session.playerState == .normal &&
      scene.session.currentRoom == rule.wakingRoom)
    .cannotSleep
  check (Catalog.has rule.dreamingRoom scene.world.rooms)
    .cannotSleep
  return rule

/- The scene with the player asleep in the room of dreams. -/
def fallAsleep (scene : Scene) :
    Except Refusal (Scene × String) := do
  let rule ← scene.sleepRule
  return ((scene.setPlayerState .dreaming).enterRoom
      rule.dreamingRoom,
    "You lie down and close your eyes. " ++
      "Sleep takes you quickly.\n\n")

/- Report on a changed condition and on the room around. -/
def reportRoom (scene : Scene) (told : String) :
    Except Refusal Reply := do
  let text ← scene.describeRoom
  return { message := told ++ text }

/- Fall asleep and dream. -/
def sleep (scene : Scene) : Done :=
  scene.carryOut scene.fallAsleep reportRoom

/- The dream rule, if the player may wake by it. -/
def wakeRule (scene : Scene) : Except Refusal DreamRule := do
  check (scene.session.playerState == .dreaming) .notDreaming
  demand scene.world.rules.dream .notDreaming

/- The scene with the player awake in the waking room. -/
def wakeUp (scene : Scene) :
    Except Refusal (Scene × String) := do
  let rule ← scene.wakeRule
  return ((scene.setPlayerState .normal).enterRoom
      rule.wakingRoom,
    "You wake with a start.\n\n")

/-
  Wake from a dream. The player wakes also where no room is
  left, and is then told to be nowhere.
-/
def wake (scene : Scene) : Done :=
  scene.carryOut scene.wakeUp reportRoom

end Scene

end TextAdventure
