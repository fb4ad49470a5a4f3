import TextAdventure.Command.Noun
import TextAdventure.Command.Basic
import TextAdventure.Play.Refusal
import TextAdventure.Scene.Basic

/-
  What the verbs share: finding the thing that is meant and
  reporting what was done.

  Key definitions include:
    * `Reply`
    * `Scene.carryOut`
    * `Scene.resolve`
    * `Scene.target`
    * `listNames`
-/

namespace TextAdventure

------------------------------------------------------------
-- Replies
------------------------------------------------------------

/- What a verb reports, and the thing it was about. -/
structure Reply where
  message : String
  target : Option String := none
deriving DecidableEq

namespace Reply

/- A report about a thing. -/
def about (thing : Thing) (message : String) : Reply where
  message := message
  target := some thing.id

end Reply

/- What a verb does: a new scene and a report, or nothing. -/
abbrev Handled :=
  Except Refusal (Scene × Reply)

/-
  Where a verb leaves the scene, and its report. A verb may
  be refused after it has changed the scene, if the report
  on the change cannot be given.
-/
abbrev Done :=
  Scene × Except Refusal Reply

namespace Scene

/- The result of a verb; if refused, the scene stays as is. -/
def settle (scene : Scene) : Handled → Done
| .ok (after, reply) => (after, .ok reply)
| .error refusal => (scene, .error refusal)

/-
  Change the scene if that is not refused, then report on the
  changed scene. A report that is refused undoes nothing.
-/
def carryOut
    {α : Type}
    (scene : Scene)
    (change : Except Refusal (Scene × α))
    (report : Scene → α → Except Refusal Reply) : Done :=
  match change with
  | .error refusal => (scene, .error refusal)
  | .ok (after, told) => (after, report after told)

end Scene

/- Names as in "a, b and c". -/
def listNames : List String → String
| [] => ""
| [name] => name
| names =>
    Text.joinWith ", " names.dropLast ++ " and " ++
      names.getLastD ""

/- The names of things as in "a, b and c". -/
def listThings (things : List Thing) : String :=
  listNames (things.map Thing.name)

------------------------------------------------------------
-- Finding Things
------------------------------------------------------------

namespace Scene

/- The thing with an id. -/
def thing (scene : Scene) (id : String) :
    Except Refusal Thing :=
  demand (scene.world.thing? id) (.notHere id)

/- Why a noun that names nothing in reach is refused. -/
def missing (scene : Scene) (noun : String) : Refusal :=
  if scene.isLit then
    let visible :=
      scene.world.things.filter (fun thing =>
        scene.world.isAccessible scene.session.currentRoom
          thing.id)
    match Noun.suggest? noun visible with
    | some suggestion => .notHereSuggesting noun suggestion
    | none => .notHere noun
  else
    .tooDark

/-
  The id of the thing that a noun means. Only things in reach
  are meant; in the dark a miss is put down to the darkness.
-/
def resolve (scene : Scene) (noun : String) :
    Except Refusal String :=
  let noun := Noun.stripFillers noun
  match scene.world.findWhere? noun scene.canReach with
  | some thing => .ok thing.id
  | none => .error (scene.missing noun)

/- The thing that a noun means. -/
def named (scene : Scene) (noun : String) :
    Except Refusal Thing := do
  let id ← scene.resolve noun
  scene.thing id

/- The thing that a command is about. -/
def target
    (scene : Scene)
    (command : Command)
    (verb : Verb) : Except Refusal Thing := do
  let noun ← demand command.noun (.missingNoun verb)
  scene.named noun

end Scene

end TextAdventure
