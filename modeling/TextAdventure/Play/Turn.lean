import TextAdventure.Game.Outcome
import TextAdventure.Play.Handling
import TextAdventure.Play.Moving
import TextAdventure.Scene.Puzzles

/-
  What one command does: the verb's own work, the scripts of
  that verb on the thing it was about, and the puzzles.

  A command that is refused runs no scripts and solves no
  puzzles. Puzzles are looked at also after a verb that only
  reads, so that one which is ready for whatever reason is
  solved.

  Key definitions include:
    * `Scene.handle`
    * `Turn`
    * `Scene.perform`
-/

namespace TextAdventure

namespace Scene

------------------------------------------------------------
-- Verbs
------------------------------------------------------------

/- A verb's own work. -/
def handle
    (scene : Scene)
    (verb : Verb)
    (command : Command) : Done :=
  match verb with
  | .look => scene.settle (scene.look command)
  | .examine => scene.settle (scene.examine command)
  | .inventory => scene.settle (.ok scene.takeStock)
  | .go => scene.go command
  | .take => scene.settle (scene.take command)
  | .drop => scene.settle (scene.drop command)
  | .put => scene.settle (scene.put command)
  | .open => scene.settle (scene.openThing command)
  | .close => scene.settle (scene.closeThing command)
  | .wear => scene.settle (scene.wear command)
  | .remove => scene.settle (scene.remove command)
  | .switchOn => scene.switch command true
  | .switchOff => scene.switch command false
  | .burn => scene.settle (scene.burn command)
  | .search => scene.settle (scene.search command)
  | .focus => scene.settle (scene.focus command)
  | .become => scene.settle (scene.become command)
  | .wait => scene.settle (.ok scene.wait)
  | .sleep => scene.sleep
  | .wake => scene.wake
  | .unscrew => scene.settle (scene.unscrew command)
  | .screw => scene.settle (scene.screw command)
  | .read => scene.settle (scene.read command)
  | .help => scene.settle (.ok scene.help)

end Scene

------------------------------------------------------------
-- Turns
------------------------------------------------------------

/- The scene after a command, its outcome and warnings. -/
structure Turn where
  scene : Scene
  outcome : Outcome
  warnings : List Warning := []
deriving DecidableEq

namespace Turn

/- A turn that was refused. -/
def refused (scene : Scene) (refusal : Refusal) : Turn where
  scene := scene
  outcome := .failure refusal.message
  warnings := refusal.warnings

end Turn

namespace Scene

/- The scripts of a verb on the thing of a reply, if any. -/
def runScriptsFor
    (scene : Scene)
    (verb : Verb)
    (reply : Reply) : Logged (Scene × List String) :=
  match reply.target with
  | some thing => scene.runScripts thing verb
  | none => .silent (scene, [])

/- What follows the work of a verb that was not refused. -/
def complete
    (scene : Scene)
    (limit : UInt64)
    (verb : Verb)
    (reply : Reply) : Turn :=
  let scripts := scene.runScriptsFor verb reply
  let puzzles := scripts.value.1.evaluatePuzzles limit
  { scene := puzzles.scene
    outcome :=
      { success := true
        message :=
          Text.joinLines
            (reply.message ::
              (scripts.value.2 ++ puzzles.messages))
        solvedPuzzle := puzzles.solved.head? }
    warnings := scripts.warnings ++ puzzles.warnings }

/- Perform a command, with a limit on puzzle passes. -/
def perform
    (scene : Scene)
    (limit : UInt64)
    (command : Command) : Turn :=
  match Verb.ofName? command.verb with
  | none => .refused scene (.unknownVerb command.verb)
  | some verb =>
      if scene.session.playerState == .dead && !verb.isQuery then
        .refused scene .dead
      else
        match scene.handle verb command with
        | (after, .error refusal) => .refused after refusal
        | (after, .ok reply) => after.complete limit verb reply

end Scene

end TextAdventure
