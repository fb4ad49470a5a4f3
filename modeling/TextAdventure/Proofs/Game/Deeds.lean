import TextAdventure.Proofs.Game.Solving

/-
  A turn as the work of a verb and the deeds that follow it.

  After the verb's own work come the scripts that it sets off
  and the puzzles that are solved, and each of them is a row
  of deeds: an effect, the flag of a script that has fired,
  or a puzzle that is marked as solved. The scene right after
  the work and after each deed is a moment of the turn.

  Main declarations:
    * `Deed`
    * `Scene.worked`
    * `Scene.Ensues`
    * `Scene.exists_ensues`
    * `Scene.Ensues.scene_eq`
    * `Scene.Ensues.mem_effects`
    * `Scene.Passes`
    * `Game.exists_ensues_execute`
    * `Game.Passes`
-/

namespace TextAdventure

------------------------------------------------------------
-- Deeds
------------------------------------------------------------

/- What happens in one go after the work of a verb. -/
inductive Deed where
| effect (effect : Effect)
| fire (flag : String)
| solve (puzzle : String)

/- What a script does, in order. -/
def Script.deeds (script : Script) : List Deed :=
  script.effects.map Deed.effect ++
    if script.once then [.fire script.firedFlag] else []

/- What solving a puzzle does, in order. -/
def Puzzle.deeds (puzzle : Puzzle) : List Deed :=
  .solve puzzle.id :: puzzle.effects.map Deed.effect

namespace Scene

/- The scene after a deed. -/
def undergo (scene : Scene) : Deed → Scene
| .effect effect => (scene.applyEffect effect).value
| .fire flag => scene.setFlag flag (.boolean true)
| .solve puzzle => scene.markSolved puzzle

/- The scene after deeds, in order. -/
def undergoAll (scene : Scene) (deeds : List Deed) : Scene :=
  deeds.foldl undergo scene

variable (scene : Scene)

theorem undergoAll_append (first second : List Deed) :
    scene.undergoAll (first ++ second) =
      (scene.undergoAll first).undergoAll second :=
  List.foldl_append

theorem applyEffects_eq_undergoAll (effects : List Effect) :
    (scene.applyEffects effects).value =
      scene.undergoAll (effects.map Deed.effect) := by
  induction effects generalizing scene with
  | nil => rfl
  | cons effect rest ih =>
      exact ih (scene.applyEffect effect).value

theorem runScript_eq_undergoAll (script : Script) :
    (scene.runScript script).value =
      scene.undergoAll script.deeds := by
  rw [Script.deeds, undergoAll_append,
    ← applyEffects_eq_undergoAll]
  unfold runScript
  simp only [Logged.map]
  split <;> rfl

theorem runEach_eq_undergoAll (scripts : List Script) :
    (scene.runEach scripts).value =
      scene.undergoAll (scripts.flatMap Script.deeds) := by
  induction scripts generalizing scene with
  | nil => rfl
  | cons script rest ih =>
      rw [List.flatMap_cons, undergoAll_append,
        ← runScript_eq_undergoAll, ← ih]
      rfl

theorem solve_eq_undergoAll (puzzle : Puzzle) :
    scene.solve puzzle = scene.undergoAll puzzle.deeds :=
  applyEffects_eq_undergoAll _ puzzle.effects

variable {scene}

theorem Solves.eq_undergoAll
    {after : Scene}
    {solved : List Puzzle}
    (hSolves : scene.Solves solved after) :
    after =
      scene.undergoAll (solved.flatMap Puzzle.deeds) := by
  induction hSolves with
  | done scene => rfl
  | next hListed hReady hLater ih =>
      rw [ih, solve_eq_undergoAll, ← undergoAll_append]
      rfl

------------------------------------------------------------
-- Turns
------------------------------------------------------------

/- The verb that a command is carried out with, if any. -/
def verb? (scene : Scene) (command : Command) : Option Verb :=
  (Verb.ofName? command.verb).filter (fun verb =>
    !(scene.session.playerState == .dead && !verb.isQuery))

/- The scene after the verb's own work. -/
def worked (scene : Scene) (command : Command) : Scene :=
  match scene.verb? command with
  | some verb => (scene.handle verb command).1
  | none => scene

/- The scripts that the work of a verb sets off. -/
def setOff (scene : Scene) (command : Command) :
    List Script :=
  match scene.verb? command with
  | some verb =>
      match scene.handle verb command with
      | (after, .ok reply) =>
          match reply.target with
          | some thing => after.pendingScripts thing verb
          | none => []
      | (_, .error _) => []
  | none => []

/- Only verbs work, and they do nothing but their work. -/
theorem worked_eq_or_works
    (scene : Scene)
    (command : Command) :
    scene.worked command = scene ∨
      ∃ verb, Verb.ofName? command.verb = some verb ∧
        scene.Works command verb (scene.worked command) := by
  unfold worked
  cases hVerb : scene.verb? command with
  | none => exact Or.inl rfl
  | some verb =>
      exact Or.inr ⟨verb,
        (Option.filter_eq_some_iff.mp hVerb).1,
        handle_works scene verb command⟩

theorem plot_worked (scene : Scene) (command : Command) :
    (scene.worked command).world.plot = scene.world.plot := by
  rcases worked_eq_or_works scene command with
    hSame | ⟨verb, -, hWorks⟩
  · rw [hSame]
  · have hEdits :
        PlainEdits (fun _ => True) scene
          (scene.worked command) :=
      hWorks.edits (fun _ => trivial)
    exact hEdits.plot

/- The scripts of a turn come right after its work. -/
theorem acted_eq_undergoAll
    (scene : Scene)
    (command : Command) :
    scene.acted command =
      (scene.worked command).undergoAll
        ((scene.setOff command).flatMap Script.deeds) := by
  have hScripts (after : Scene) (verb : Verb) (reply : Reply) :
      (after.runScriptsFor verb reply).value.1 =
        after.undergoAll
          ((match reply.target with
            | some thing => after.pendingScripts thing verb
            | none => []).flatMap Script.deeds) := by
    unfold runScriptsFor
    cases reply.target with
    | none => rfl
    | some thing => exact runEach_eq_undergoAll after _
  unfold acted worked setOff verb?
  cases Verb.ofName? command.verb with
  | none => rfl
  | some verb =>
      cases hDead :
          (scene.session.playerState == .dead &&
            !verb.isQuery) with
      | true =>
          simp only [Option.filter_some, hDead, Bool.not_true,
            Bool.false_eq_true, if_false, if_true]
          rfl
      | false =>
          simp only [Option.filter_some, hDead, Bool.not_false,
            if_true, Bool.false_eq_true, if_false]
          rcases scene.handle verb command with
            ⟨after, refusal | reply⟩
          · rfl
          · exact hScripts after verb reply

/-
  The deeds that follow the work of a command: those of the
  scripts that are set off and of the puzzles solved then.
-/
def Ensues
    (scene : Scene)
    (limit : UInt64)
    (command : Command)
    (deeds : List Deed) : Prop :=
  ∃ solved,
    (scene.acted command).Solves solved
        (scene.perform limit command).scene ∧
      deeds =
        (scene.setOff command).flatMap Script.deeds ++
          solved.flatMap Puzzle.deeds

/- Every command is followed by some deeds. -/
theorem exists_ensues
    (scene : Scene)
    (limit : UInt64)
    (command : Command) :
    ∃ deeds, scene.Ensues limit command deeds := by
  rcases exists_solves_perform scene limit command with
    ⟨solved, hSolves, -⟩
  exact ⟨_, solved, hSolves, rfl⟩

/- With them the turn is complete. -/
theorem Ensues.scene_eq
    {limit : UInt64}
    {command : Command}
    {deeds : List Deed}
    (hEnsues : scene.Ensues limit command deeds) :
    (scene.perform limit command).scene =
      (scene.worked command).undergoAll deeds := by
  rcases hEnsues with ⟨solved, hSolves, rfl⟩
  rw [undergoAll_append, ← acted_eq_undergoAll]
  exact hSolves.eq_undergoAll

/- The scene right after the work, or after some deeds. -/
def Passes
    (scene : Scene)
    (limit : UInt64)
    (command : Command)
    (moment : Scene) : Prop :=
  ∃ past future,
    scene.Ensues limit command (past ++ future) ∧
      moment = (scene.worked command).undergoAll past

/- A turn begins with the work and ends as it is played. -/
theorem passes_worked
    (scene : Scene)
    (limit : UInt64)
    (command : Command) :
    scene.Passes limit command (scene.worked command) := by
  rcases exists_ensues scene limit command with
    ⟨deeds, hEnsues⟩
  exact ⟨[], deeds, hEnsues, rfl⟩

theorem passes_last
    (scene : Scene)
    (limit : UInt64)
    (command : Command) :
    scene.Passes limit command
      (scene.perform limit command).scene := by
  rcases exists_ensues scene limit command with
    ⟨deeds, hEnsues⟩
  exact ⟨deeds, [], (List.append_nil deeds).symm ▸ hEnsues,
    hEnsues.scene_eq⟩

end Scene

------------------------------------------------------------
-- Effects Of A World
------------------------------------------------------------

namespace World

/- The effects that puzzles and scripts of a world have. -/
def effects (world : World) : List Effect :=
  world.puzzles.flatMap Puzzle.effects ++
    world.scripts.flatMap Script.effects

theorem effects_of_plot_eq
    {before after : World}
    (hPlot : after.plot = before.plot) :
    after.effects = before.effects := by
  have hForget (puzzles : List Puzzle) :
      puzzles.flatMap Puzzle.effects =
        (puzzles.map (fun puzzle =>
          { puzzle with solved := false })).flatMap
            Puzzle.effects := by
    rw [List.flatMap_map]
  have hPuzzles := congrArg (fun plot => plot.2.1) hPlot
  have hScripts := congrArg (fun plot => plot.2.2) hPlot
  simp only [plot] at hPuzzles hScripts
  unfold effects
  rw [hForget, hPuzzles, ← hForget, hScripts]

end World

namespace Scene

variable {scene : Scene}

/- Deeds leave the plot as it is. -/
theorem plot_undergo (scene : Scene) (deed : Deed) :
    (scene.undergo deed).world.plot = scene.world.plot := by
  cases deed with
  | effect effect =>
      have hEdits :
          PlainEdits (fun _ => True) scene
            (scene.applyEffect effect).value :=
        applyEffect_edits (fun _ => trivial) scene
          effect.grants_any
      exact hEdits.plot
  | fire flag => rfl
  | solve puzzle =>
      exact World.plot_markSolved scene.world puzzle

theorem plot_undergoAll (scene : Scene) (deeds : List Deed) :
    (scene.undergoAll deeds).world.plot =
      scene.world.plot := by
  induction deeds generalizing scene with
  | nil => rfl
  | cons deed rest ih =>
      exact (ih (scene.undergo deed)).trans
        (plot_undergo scene deed)

/- What solved puzzles do is in the world from the first. -/
theorem Solves.mem_effects
    {after : Scene}
    {solved : List Puzzle}
    (hSolves : scene.Solves solved after)
    {puzzle : Puzzle}
    (hMem : puzzle ∈ solved)
    {effect : Effect}
    (hEffect : effect ∈ puzzle.effects) :
    effect ∈ scene.world.effects := by
  induction hSolves with
  | done scene => simp at hMem
  | @next scene after first later hListed hReady hLater ih =>
      rcases List.mem_cons.mp hMem with rfl | hRest
      · exact List.mem_append_left _
          (List.mem_flatMap_of_mem hListed hEffect)
      · have hPlot :
            (scene.solve first).world.plot =
              scene.world.plot := by
          rw [solve_eq_undergoAll]
          exact plot_undergoAll scene first.deeds
        rw [← World.effects_of_plot_eq hPlot]
        exact ih hRest

theorem mem_scripts_of_mem_setOff
    {command : Command}
    {script : Script}
    (hMem : script ∈ scene.setOff command) :
    script ∈ scene.world.scripts := by
  have hScripts :
      (scene.worked command).world.scripts =
        scene.world.scripts :=
    congrArg (fun plot => plot.2.2) (plot_worked scene command)
  unfold setOff at hMem
  unfold worked at hScripts
  cases hVerb : scene.verb? command with
  | none => simp [hVerb] at hMem
  | some verb =>
      simp only [hVerb] at hMem hScripts
      split at hMem
      · rename_i after reply hHandle
        rw [hHandle] at hScripts
        split at hMem
        · have hOfVerb := (List.mem_filter.mp hMem).1
          rw [← hScripts]
          exact (List.mem_filter.mp hOfVerb).1
        · simp at hMem
      · simp at hMem

/- All that follows a command is from the world's effects. -/
theorem Ensues.mem_effects
    {limit : UInt64}
    {command : Command}
    {deeds : List Deed}
    (hEnsues : scene.Ensues limit command deeds)
    {effect : Effect}
    (hMem : Deed.effect effect ∈ deeds) :
    effect ∈ scene.world.effects := by
  rcases hEnsues with ⟨solved, hSolves, rfl⟩
  rcases List.mem_append.mp hMem with hScript | hPuzzle
  · rcases List.mem_flatMap.mp hScript with
      ⟨script, hScript, hDeed⟩
    have hEffect : effect ∈ script.effects := by
      unfold Script.deeds at hDeed
      split at hDeed <;> simpa using hDeed
    exact List.mem_append_right _
      (List.mem_flatMap_of_mem
        (mem_scripts_of_mem_setOff hScript) hEffect)
  · rcases List.mem_flatMap.mp hPuzzle with
      ⟨puzzle, hPuzzle, hDeed⟩
    have hEffect : effect ∈ puzzle.effects := by
      simpa [Puzzle.deeds] using hDeed
    have hPlot :
        (scene.acted command).world.plot = scene.world.plot := by
      rw [acted_eq_undergoAll]
      exact (plot_undergoAll _ _).trans
        (plot_worked scene command)
    rw [← World.effects_of_plot_eq hPlot]
    exact hSolves.mem_effects hPuzzle hEffect

end Scene

------------------------------------------------------------
-- Lines
------------------------------------------------------------

namespace Game

/- The scene of a line right after the work of its verb. -/
def worked (game : Game) (line : String) : Scene :=
  (nextTurn game.scene).worked (Command.ofLine line)

/- A line is the work of its verb and the deeds after it. -/
theorem exists_ensues_execute (game : Game) (line : String) :
    ∃ deeds,
      (nextTurn game.scene).Ensues game.settings.maxPasses
          (Command.ofLine line) deeds ∧
        (game.execute line).value.1.scene =
          recordChanges
            ((game.worked line).undergoAll deeds) := by
  rcases Scene.exists_ensues (nextTurn game.scene)
      game.settings.maxPasses (Command.ofLine line) with
    ⟨deeds, hEnsues⟩
  refine ⟨deeds, hEnsues, ?_⟩
  rw [scene_execute, turn, hEnsues.scene_eq, worked]

/- A moment of the turn that a line makes. -/
def Passes (game : Game) (line : String) (moment : Scene) :
    Prop :=
  (nextTurn game.scene).Passes game.settings.maxPasses
    (Command.ofLine line) moment

end Game

end TextAdventure
