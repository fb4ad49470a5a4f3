import TextAdventure.Scene.Change

/-
  Running scripts: what a verb on a thing does besides.

  A script that runs only once remembers that in a flag. The
  scripts to run are chosen before the first of them runs.

  Key definitions include:
    * `Scene.pendingScripts`
    * `Scene.runScripts`
-/

namespace TextAdventure

namespace Scene

/- The scripts of a verb on a thing that may still run. -/
def pendingScripts
    (scene : Scene)
    (thing : String)
    (verb : Verb) : List Script :=
  (scene.world.scriptsFor thing verb).filter (fun script =>
    !(script.once && scene.session.hasFlag script.firedFlag))

/- Run a script, message aside. -/
def runScript (scene : Scene) (script : Script) :
    Logged Scene :=
  (scene.applyEffects script.effects).map (fun after =>
    if script.once then
      after.setFlag script.firedFlag (.boolean true)
    else
      after)

/- Run scripts in order. -/
def runEach (scene : Scene) : List Script → Logged Scene
| [] => .silent scene
| script :: rest =>
    (scene.runScript script).bind
      (fun after => runEach after rest)

/- Run what is pending; the result also holds the messages. -/
def runScripts
    (scene : Scene)
    (thing : String)
    (verb : Verb) : Logged (Scene × List String) :=
  let scripts := scene.pendingScripts thing verb
  (scene.runEach scripts).map (fun after =>
    (after, scripts.filterMap Script.message))

end Scene

end TextAdventure
