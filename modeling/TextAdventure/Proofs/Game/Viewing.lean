import Mathlib.Data.List.Forall2
import TextAdventure.Proofs.Command.Grammar
import TextAdventure.Proofs.Game.Reloading

/-
  Looking at a thing and examining it.

  To look at a thing is to examine it: both find the same
  thing, report the same and change nothing, and both are open
  to the dead. What they set off belongs to the verb that was
  typed, so the two lines differ in the scripts of the thing
  and in what comes of these. Where the scripts of both verbs
  do the same, nothing differs at all.

  Main declarations:
    * `Scene.look_eq_examine`
    * `Script.DoesAs`
    * `Scene.complete_eq_complete`
    * `Game.look_and_examine_differ_in_scripts`
-/

namespace TextAdventure

open Relation (ReflTransGen)

------------------------------------------------------------
-- Scripts That Do The Same
------------------------------------------------------------

/- Scripts that do the same, as often as they are run. -/
structure Script.DoesAs (left right : Script) : Prop where
  effects : left.effects = right.effects
  message : left.message = right.message
  leftRepeats : left.once = false
  rightRepeats : right.once = false

namespace Scene

variable {scene after : Scene}
variable {reply : Reply}
variable {command other : Command}

theorem runScript_eq_runScript
    {left right : Script}
    (hSame : left.DoesAs right)
    (scene : Scene) :
    scene.runScript left = scene.runScript right := by
  simp [runScript, hSame.effects, hSame.leftRepeats,
    hSame.rightRepeats]

theorem runEach_eq_runEach
    {left right : List Script}
    (hSame : List.Forall₂ Script.DoesAs left right)
    (scene : Scene) :
    scene.runEach left = scene.runEach right := by
  induction hSame generalizing scene with
  | nil => rfl
  | cons hFirst _ ih =>
      simp only [runEach, runScript_eq_runScript hFirst, ih]

theorem messages_eq_messages
    {left right : List Script}
    (hSame : List.Forall₂ Script.DoesAs left right) :
    left.filterMap Script.message =
      right.filterMap Script.message := by
  induction hSame with
  | nil => rfl
  | cons hFirst _ ih =>
      simp only [List.filterMap_cons, hFirst.message, ih]

/-
  After a reply two verbs set off the same if the scripts
  that may still run do the same.
-/
def SetOffAlike
    (scene : Scene)
    (reply : Reply)
    (first second : Verb) : Prop :=
  ∀ thing, reply.target = some thing →
    List.Forall₂ Script.DoesAs
      (scene.pendingScripts thing first)
      (scene.pendingScripts thing second)

/- Then a turn is completed alike under both verbs. -/
theorem complete_eq_complete
    {first second : Verb}
    (hAlike : scene.SetOffAlike reply first second)
    (limit : UInt64) :
    scene.complete limit first reply =
      scene.complete limit second reply := by
  have hScripts :
      scene.runScriptsFor first reply =
        scene.runScriptsFor second reply := by
    unfold runScriptsFor
    cases hTarget : reply.target with
    | none => rfl
    | some thing =>
        have hSame := hAlike thing hTarget
        simp only [runScripts, runEach_eq_runEach hSame,
          messages_eq_messages hSame]
  simp only [complete, hScripts]

------------------------------------------------------------
-- Verbs That Only Read
------------------------------------------------------------

/- To look, with a noun or without one, is to examine. -/
theorem look_eq_examine (scene : Scene) (command : Command) :
    scene.look command = scene.examine command := by
  unfold look examine
  cases command.noun <;> rfl

/- Only the noun says what is examined. -/
theorem examine_eq_of_noun_eq
    (hNoun : command.noun = other.noun)
    (scene : Scene) :
    scene.examine command = scene.examine other := by
  simp only [examine, target, hNoun]

/- So it is the same work on the same noun. -/
theorem handle_look_eq_handle_examine
    (hNoun : command.noun = other.noun)
    (scene : Scene) :
    scene.handle .look command =
      scene.handle .examine other := by
  simp only [handle, look_eq_examine,
    examine_eq_of_noun_eq hNoun]

/- To look changes nothing. -/
theorem handle_look_fst (scene : Scene) (command : Command) :
    (scene.handle .look command).1 = scene := by
  simp only [handle]
  cases hDone : scene.look command with
  | error refusal => rfl
  | ok done => exact eq_of_look hDone

/- A query that is refused. -/
theorem perform_of_query_error
    {verb : Verb}
    {refusal : Refusal}
    (hVerb : command.verb = verb.name)
    (hQuery : verb.isQuery = true)
    (hError :
      scene.handle verb command = (after, .error refusal))
    (limit : UInt64) :
    scene.perform limit command = .refused after refusal := by
  simp [perform, hVerb, hQuery, hError]

/- A query is answered by the living and by the dead. -/
theorem perform_of_query_ok
    {verb : Verb}
    (hVerb : command.verb = verb.name)
    (hQuery : verb.isQuery = true)
    (hOk : scene.handle verb command = (after, .ok reply))
    (limit : UInt64) :
    scene.perform limit command =
      after.complete limit verb reply := by
  simp [perform, hVerb, hQuery, hOk]

end Scene

------------------------------------------------------------
-- Lines
------------------------------------------------------------

namespace Game

/- Two lines that make the same turn are played alike. -/
theorem execute_eq_of_turn_eq
    {game : Game}
    {line other : String}
    (hTurn : game.turn line = game.turn other) :
    game.execute line = game.execute other := by
  have hExecute (line : String) :
      game.execute line =
        { value :=
            ({ game with
                scene := recordChanges (game.turn line).scene },
              (game.turn line).outcome)
          warnings := (game.turn line).warnings } :=
    rfl
  rw [hExecute, hExecute, hTurn]

/-
  Lines whose verbs only read and do the same work. If they
  are not refused, each is completed by the scripts of its own
  verb. If these do the same too, both come to the same.
-/
theorem turns_of_queries
    {game : Game}
    {first second : Verb}
    {line other : String}
    {done : Except Refusal Reply}
    (hFirst : (Command.ofLine line).verb = first.name)
    (hSecond : (Command.ofLine other).verb = second.name)
    (hQueries :
      first.isQuery = true ∧ second.isQuery = true)
    (hLine :
      (nextTurn game.scene).handle first (.ofLine line) =
        (nextTurn game.scene, done))
    (hOther :
      (nextTurn game.scene).handle second (.ofLine other) =
        (nextTurn game.scene, done)) :
    (∀ refusal, done = .error refusal →
      game.turn line = .refused (nextTurn game.scene) refusal ∧
        game.execute line = game.execute other) ∧
      ∀ reply, done = .ok reply →
        game.turn line =
            (nextTurn game.scene).complete
              game.settings.maxPasses first reply ∧
          game.turn other =
            (nextTurn game.scene).complete
              game.settings.maxPasses second reply ∧
          ((nextTurn game.scene).SetOffAlike reply first
              second →
            game.execute line = game.execute other) := by
  constructor
  · rintro refusal rfl
    have hTurn : game.turn line = .refused _ refusal :=
      Scene.perform_of_query_error hFirst hQueries.1 hLine _
    have hSame : game.turn other = .refused _ refusal :=
      Scene.perform_of_query_error hSecond hQueries.2 hOther _
    exact ⟨hTurn,
      execute_eq_of_turn_eq (hTurn.trans hSame.symm)⟩
  · rintro reply rfl
    have hTurn :
        game.turn line =
          (nextTurn game.scene).complete
            game.settings.maxPasses first reply :=
      Scene.perform_of_query_ok hFirst hQueries.1 hLine _
    have hSame :
        game.turn other =
          (nextTurn game.scene).complete
            game.settings.maxPasses second reply :=
      Scene.perform_of_query_ok hSecond hQueries.2 hOther _
    refine ⟨hTurn, hSame, ?_⟩
    intro hAlike
    apply execute_eq_of_turn_eq
    rw [hTurn, hSame, Scene.complete_eq_complete hAlike]

/-
  The lines that look at something and examine it. They find
  and report the same and change nothing, and they differ only
  in the scripts of their verbs on the thing that was found.
-/
theorem look_and_examine_differ_in_scripts
    (game : Game)
    {phrase : String}
    (hPhrase :
      ∀ first ∈ (Text.words (Text.lowercase phrase)).head?,
        first ∉ ["at", "in", "under"]) :
    let looking := "look " ++ phrase
    let examining := "examine " ++ phrase
    let scene := nextTurn game.scene
    let limit := game.settings.maxPasses
    ∃ done,
      scene.handle .look (.ofLine looking) = (scene, done) ∧
      scene.handle .examine (.ofLine examining) =
        (scene, done) ∧
      (∀ refusal, done = .error refusal →
        game.turn looking = .refused scene refusal ∧
          game.execute looking = game.execute examining) ∧
      ∀ reply, done = .ok reply →
        game.turn looking =
            scene.complete limit .look reply ∧
          game.turn examining =
            scene.complete limit .examine reply ∧
          (scene.SetOffAlike reply .look .examine →
            game.execute looking =
              game.execute examining) := by
  intro looking examining scene limit
  have hSame :=
    Scene.handle_look_eq_handle_examine
      (Command.noun_ofLine_look hPhrase) scene
  have hLooked :
      scene.handle .look (.ofLine looking) =
        (scene, (scene.handle .look (.ofLine looking)).2) :=
    Prod.fst_eq_iff.mp (Scene.handle_look_fst scene _)
  have hTurns :=
    turns_of_queries (Command.verb_ofLine_look hPhrase)
      (Command.verb_ofLine_examine phrase) ⟨rfl, rfl⟩ hLooked
      (hSame.symm.trans hLooked)
  exact ⟨_, hLooked, hSame.symm.trans hLooked, hTurns⟩

/- A script by which a verb on the leaves tells something. -/
def rustling (verb : Verb) : Script where
  thing := "pile-of-leaves"
  verb := verb
  message := some "The leaves rustle."
  effects := [.setFlag "rustled" (.boolean true)]

/- A game in which the leaves rustle however one looks. -/
def rustlingForest : Game :=
  ((fresh {} .embedded ⟨0⟩).add (.script (rustling .look))).add
    (.script (rustling .examine))

/- The leaves rustle for both lines. -/
theorem look_eq_examine_in_rustlingForest :
    (∀ first ∈ (Text.words (Text.lowercase "leaves")).head?,
        first ∉ ["at", "in", "under"]) ∧
      rustlingForest.execute "look leaves" =
        rustlingForest.execute "examine leaves" ∧
      (rustlingForest.execute
          "look leaves").value.1.session.hasFlag "rustled" =
        true := by
  have hPhrase :
      ∀ first ∈ (Text.words (Text.lowercase "leaves")).head?,
        first ∉ ["at", "in", "under"] := by
    decide +kernel
  have hDone :
      ((nextTurn rustlingForest.scene).handle .look
          (.ofLine "look leaves")).2 =
        .ok
          { message := EmbeddedStory.pileOfLeaves.description
            target := some "pile-of-leaves" } := by
    decide +kernel
  have hPending :
      (nextTurn rustlingForest.scene).pendingScripts
          "pile-of-leaves" .look = [rustling .look] ∧
        (nextTurn rustlingForest.scene).pendingScripts
            "pile-of-leaves" .examine =
          [rustling .examine] := by
    decide +kernel
  have hFlag :
      (rustlingForest.execute
          "look leaves").value.1.session.hasFlag "rustled" =
        true := by
    decide +kernel
  rcases look_and_examine_differ_in_scripts rustlingForest
    hPhrase with ⟨done, hLooked, -, -, hReplies⟩
  have hReply :=
    (congrArg Prod.snd hLooked).symm.trans hDone
  refine ⟨hPhrase, (hReplies _ hReply).2.2 ?_, hFlag⟩
  intro thing hThing
  cases hThing
  rw [hPending.1, hPending.2]
  exact .cons ⟨rfl, rfl, rfl, rfl⟩ .nil

/- A game in which the leaves rustle if they are examined. -/
def quietForest : Game :=
  (fresh {} .embedded ⟨0⟩).add (.script (rustling .examine))

/- There the two lines are not the same command. -/
theorem look_ne_examine_in_quietForest :
    (start {} (fun _ => .nothing) ⟨0⟩).value =
        .ok (fresh {} .embedded ⟨0⟩) ∧
      ReflTransGen AnyStep (fresh {} .embedded ⟨0⟩)
        quietForest ∧
      (quietForest.execute "look leaves").value.2 ≠
        (quietForest.execute "examine leaves").value.2 := by
  exact ⟨start_embedded, reaches_add _ _, by decide +kernel⟩

end Game

end TextAdventure
