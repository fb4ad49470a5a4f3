import TextAdventure.Proofs.Game.Condition

/-
  The void over a whole run, when no effect sets the player's
  condition.

  The player is the void from the line in which its thing is
  put on, in its room, to the line in which it comes off, and
  is then what they were before. That holds at every moment
  of a line and not only at its end, so it does not matter
  whether a verb, a script or a puzzle takes the thing off,
  or whether it comes off in the line that it was put on.

  Main declarations:
    * `Scene.Warranted`
    * `Scene.Passes.warranted`
    * `Scene.Passes.returned`
    * `Scene.VoidIn.lasts`
    * `Content.IsCalm`
    * `Game.VoidSince`
    * `Game.void_law_of_calm`
-/

namespace TextAdventure

------------------------------------------------------------
-- Moments
------------------------------------------------------------

namespace Scene

variable {scene moment : Scene}
variable {limit : UInt64}
variable {command : Command}
variable {held : PlayerState}

/-
  What a change of condition takes: one falls asleep by the
  verb for that and in the waking room, wakes by the verb for
  that, and becomes the void by putting on its thing in its
  room.
-/
structure Warranted
    (before : Scene)
    (command : Command)
    (after : Scene) : Prop where
  asleep :
    before.session.playerState = .normal →
      after.session.playerState = .dreaming →
        Verb.ofName? command.verb = some .sleep ∧
          ∃ rule, before.world.rules.dream = some rule ∧
            before.session.currentRoom = rule.wakingRoom
  awake :
    before.session.playerState = .dreaming →
      after.session.playerState = .normal →
        Verb.ofName? command.verb = some .wake
  void :
    before.session.playerState ≠ .void →
      after.session.playerState = .void →
        ∃ verb rule thing,
          Verb.ofName? command.verb = some verb ∧
            (verb = .wear ∨ verb = .become) ∧
            before.world.rules.void = some rule ∧
            before.target command verb = .ok thing ∧
            thing.id = rule.thing ∧
            before.session.currentRoom = rule.room

/- Only the conditions count. -/
theorem Warranted.of_condition_eq
    {before after later : Scene}
    (hWarranted : Warranted before command after)
    (hSame :
      later.session.condition = after.session.condition) :
    Warranted before command later := by
  have hState :
      later.session.playerState = after.session.playerState :=
    Session.playerState_eq hSame
  exact
    { asleep := hState ▸ hWarranted.asleep
      awake := hState ▸ hWarranted.awake
      void := hState ▸ hWarranted.void }

/- Who leaves the void needs no warrant. -/
theorem Subsides.warranted
    {before after : Scene}
    (hSubsides : Subsides before after)
    (command : Command) :
    Warranted before command after := by
  rcases hSubsides with hSame | ⟨hVoid, -⟩
  · have hState :
        after.session.playerState =
          before.session.playerState :=
      Session.playerState_eq hSame
    exact
      { asleep := by
          intro hBefore hAfter
          simp [hState, hBefore] at hAfter
        awake := by
          intro hBefore hAfter
          simp [hState, hBefore] at hAfter
        void := by
          intro hBefore hAfter
          exact absurd (hState.symm.trans hAfter) hBefore }
  · exact
      { asleep := by
          intro hBefore
          simp [hVoid] at hBefore
        awake := by
          intro hBefore
          simp [hVoid] at hBefore
        void := fun hBefore => absurd hVoid hBefore }

/- Outside the void only what is set changes the condition. -/
theorem Subsides.condition_eq
    {before after : Scene}
    {state : PlayerState}
    {suspended : Option PlayerState}
    (hSubsides : Subsides before after)
    (hCondition :
      before.session.condition = (state, suspended))
    (hFree : state ≠ .void) :
    after.session.condition = (state, suspended) := by
  rcases hSubsides with hSame | ⟨hVoid, -⟩
  · exact hSame.trans hCondition
  · have hState : before.session.playerState = state :=
      (Session.condition_eq_iff.mp hCondition).1
    exact absurd (hState.symm.trans hVoid) hFree

/- From the void one comes to what one was, or nowhere. -/
theorem Subsides.condition_of_void
    {before after : Scene}
    (hSubsides : Subsides before after)
    (hCondition :
      before.session.condition = (.void, some held)) :
    after.session.condition = (.void, some held) ∨
      after.session.condition = (held, none) := by
  rcases hSubsides with hSame | ⟨-, hReturned⟩
  · exact Or.inl (hSame.trans hCondition)
  · have hSuspended :
        before.session.suspendedState = some held :=
      (Session.condition_eq_iff.mp hCondition).2
    rw [hSuspended] at hReturned
    exact Or.inr hReturned

/- Whatever condition a verb brings about, it has a warrant. -/
theorem Shifts.warranted
    {verb : Verb}
    {worked : Scene}
    (hShifts : Shifts scene command verb worked)
    (hVerb : Verb.ofName? command.verb = some verb)
    (hLaw : scene.VoidLaw)
    (hLater : Subsides worked moment) :
    Warranted scene command moment := by
  cases hShifts with
  | drifts _ hDrifts =>
      exact (hDrifts.subsides.trans hLaw hLater).warranted
        command
  | @sleeps _ rule hRule hNormal hHere hCondition =>
      have hState : moment.session.playerState = .dreaming :=
        (Session.condition_eq_iff.mp
          (hLater.condition_eq hCondition (by decide))).1
      exact
        { asleep := fun _ _ => ⟨hVerb, rule, hRule, hHere⟩
          awake := by simp [hNormal]
          void := by simp [hState] }
  | wakes hDreaming hCondition =>
      have hState : moment.session.playerState = .normal :=
        (Session.condition_eq_iff.mp
          (hLater.condition_eq hCondition (by decide))).1
      exact
        { asleep := by simp [hDreaming]
          awake := fun _ _ => hVerb
          void := by simp [hState] }
  | @becomesVoid _ _ rule thing hChoice hRule hTarget hThing
      hHere hFree hCondition hWears =>
      have hState :
          moment.session.playerState = .void ∨
            moment.session.playerState =
              scene.session.playerState := by
        rcases hLater.condition_of_void hCondition with
          hVoid | hBack
        · exact Or.inl (Session.condition_eq_iff.mp hVoid).1
        · exact Or.inr (Session.condition_eq_iff.mp hBack).1
      exact
        { asleep := by
            intro hBefore hAfter
            simp [hBefore, hAfter] at hState
          awake := by
            intro hBefore hAfter
            simp [hBefore, hAfter] at hState
          void := fun _ _ =>
            ⟨verb, rule, thing, hVerb, hChoice, hRule, hTarget,
              hThing, hHere⟩ }

/- The work of a verb is lawful. -/
theorem VoidLaw.worked
    (hLaw : scene.VoidLaw)
    (command : Command) :
    (scene.worked command).VoidLaw := by
  rcases worked_eq_or_works scene command with
    hSame | ⟨verb, -, hWorks⟩
  · rw [hSame]
    exact hLaw
  · exact hLaw.shift hWorks.shifts

section Calm

variable (hLaw : scene.VoidLaw)
variable (hCalm :
  ∀ effect ∈ scene.world.effects, effect.IsCalm)

include hCalm

theorem Ensues.areCalm
    {deeds : List Deed}
    (hEnsues : scene.Ensues limit command deeds) :
    AreCalm deeds :=
  fun effect hMem => hCalm effect (hEnsues.mem_effects hMem)

include hLaw

/- Every moment is lawful, and the void only ever ends. -/
theorem Passes.subsides
    (hPasses : scene.Passes limit command moment) :
    moment.VoidLaw ∧
      Subsides (scene.worked command) moment ∧
      Subsides moment (scene.perform limit command).scene := by
  rcases hPasses with ⟨past, future, hEnsues, rfl⟩
  have hDeeds := hEnsues.areCalm hCalm
  have hPast : AreCalm past :=
    fun effect hMem =>
      hDeeds effect (List.mem_append_left _ hMem)
  have hFuture : AreCalm future :=
    fun effect hMem =>
      hDeeds effect (List.mem_append_right _ hMem)
  rcases (hLaw.worked command).undergoAll hPast with
    ⟨hMoment, hEarlier⟩
  refine ⟨hMoment, hEarlier, ?_⟩
  rw [hEnsues.scene_eq, undergoAll_append]
  exact (hMoment.undergoAll hFuture).2

/- Changes of condition are warranted at every moment. -/
theorem Passes.warranted
    (hPasses : scene.Passes limit command moment) :
    Warranted scene command moment := by
  rcases hPasses.subsides hLaw hCalm with ⟨-, hEarlier, -⟩
  rcases worked_eq_or_works scene command with
    hSame | ⟨verb, hVerb, hWorks⟩
  · rw [hSame] at hEarlier
    exact hEarlier.warranted command
  · exact hWorks.shifts.warranted hVerb hLaw hEarlier

end Calm

/-
  The player is the void in the turn of a command, from what
  they were: already before it, or by the work of its verb.
-/
def VoidIn
    (scene : Scene)
    (command : Command)
    (held : PlayerState) : Prop :=
  scene.session.condition = (.void, some held) ∨
    scene.session.playerState = held ∧ held ≠ .void ∧
      (scene.worked command).session.playerState = .void

/- A verb leaves an old void as it is, or ends it. -/
theorem Shifts.condition_of_void
    {verb : Verb}
    {after : Scene}
    (hShifts : Shifts scene command verb after)
    (hVoid : scene.session.condition = (.void, some held)) :
    after.session.condition = (.void, some held) ∨
      after.session.condition = (held, none) ∧
        after.wearsVoid = false := by
  rcases Session.condition_eq_iff.mp hVoid with
    ⟨hBefore, hSuspended⟩
  cases hShifts with
  | drifts _ hDrifts =>
      cases hDrifts with
      | stays hSteady =>
          exact Or.inl (hSteady.condition.trans hVoid)
      | returns _ hCondition hOff =>
          rw [hSuspended] at hCondition
          exact Or.inr ⟨hCondition, hOff⟩
  | sleeps _ hNormal => simp [hNormal] at hBefore
  | wakes hDreaming => simp [hDreaming] at hBefore
  | becomesVoid _ _ _ _ _ hOut => exact absurd hBefore hOut

/- A new void keeps in mind what the player was before. -/
theorem Shifts.condition_of_becomes
    {verb : Verb}
    {after : Scene}
    (hShifts : Shifts scene command verb after)
    (hFree : scene.session.playerState ≠ .void)
    (hVoid : after.session.playerState = .void) :
    after.session.condition =
      (.void, some scene.session.playerState) := by
  have hSet
      {state : PlayerState}
      {suspended : Option PlayerState}
      (hCondition :
        after.session.condition = (state, suspended)) :
      state = .void :=
    (Session.condition_eq_iff.mp hCondition).1.symm.trans hVoid
  cases hShifts with
  | drifts _ hDrifts =>
      rcases hDrifts.subsides with hStill | ⟨hOld, -⟩
      · exact absurd (hSet hStill) hFree
      · exact absurd hOld hFree
  | sleeps _ _ _ hCondition => cases hSet hCondition
  | wakes _ hCondition => cases hSet hCondition
  | becomesVoid _ _ _ _ _ _ hCondition => exact hCondition

/- After the work one is the void, or back and the thing off. -/
theorem VoidIn.condition_worked
    (hVoid : scene.VoidIn command held) :
    (scene.worked command).session.condition =
        (.void, some held) ∨
      (scene.worked command).session.condition =
          (held, none) ∧
        (scene.worked command).wearsVoid = false := by
  rcases worked_eq_or_works scene command with
    hSame | ⟨verb, -, hWorks⟩
  · rw [VoidIn, hSame] at hVoid
    rw [hSame]
    rcases hVoid with hSince | ⟨hHeld, hFree, hNow⟩
    · exact Or.inl hSince
    · exact absurd (hHeld.symm.trans hNow) hFree
  · rcases hVoid with hSince | ⟨rfl, hFree, hNow⟩
    · exact hWorks.shifts.condition_of_void hSince
    · exact Or.inl
        (hWorks.shifts.condition_of_becomes hFree hNow)

/- By the law nobody is kept in mind as the void. -/
theorem VoidLaw.ne_void
    (hLaw : scene.VoidLaw)
    (hCondition : scene.session.condition = (held, none)) :
    held ≠ .void := by
  rintro rfl
  have hState : scene.session.playerState = .void :=
    (Session.condition_eq_iff.mp hCondition).1
  have hNone : scene.session.suspendedState = none :=
    (Session.condition_eq_iff.mp hCondition).2
  have hSome := hLaw.suspended_iff.mp hState
  simp [hNone] at hSome

section Calm

variable (hLaw : scene.VoidLaw)
variable (hCalm :
  ∀ effect ∈ scene.world.effects, effect.IsCalm)

include hLaw hCalm

/- At every moment one is the void, or back. -/
theorem Passes.condition
    (hVoid : scene.VoidIn command held)
    (hPasses : scene.Passes limit command moment) :
    moment.session.condition = (.void, some held) ∨
      moment.session.condition = (held, none) ∧
        held ≠ .void := by
  rcases hPasses.subsides hLaw hCalm with
    ⟨hMoment, hEarlier, -⟩
  have hEither :
      moment.session.condition = (.void, some held) ∨
        moment.session.condition = (held, none) := by
    rcases hVoid.condition_worked with hStill | ⟨hBack, -⟩
    · exact hEarlier.condition_of_void hStill
    · exact Or.inr (hEarlier.condition_eq hBack
        ((hLaw.worked command).ne_void hBack))
  rcases hEither with hStill | hBack
  · exact Or.inl hStill
  · exact Or.inr ⟨hBack, hMoment.ne_void hBack⟩

/-
  Once the thing is off, the player is what they were, at
  that moment and at the end of the turn.
-/
theorem Passes.returned
    (hVoid : scene.VoidIn command held)
    (hPasses : scene.Passes limit command moment)
    (hOff : moment.wearsVoid = false) :
    moment.session.condition = (held, none) ∧
      (scene.perform limit command).scene.session.condition =
        (held, none) := by
  rcases hPasses.subsides hLaw hCalm with
    ⟨hMoment, -, hLater⟩
  rcases hPasses.condition hLaw hCalm hVoid with
    hStill | ⟨hBack, hFree⟩
  · have hWears :=
      hMoment.worn (Session.condition_eq_iff.mp hStill).1
    simp [hOff] at hWears
  · exact ⟨hBack, hLater.condition_eq hBack hFree⟩

omit hLaw in
/- While the thing stays on, the player stays the void. -/
theorem VoidIn.lasts
    (hVoid : scene.VoidIn command held)
    (limit : UInt64)
    (hOn :
      ∀ moment, scene.Passes limit command moment →
        moment.wearsVoid = true) :
    (scene.perform limit command).scene.session.condition =
      (.void, some held) := by
  rcases exists_ensues scene limit command with
    ⟨deeds, hEnsues⟩
  have hMoments :
      ∀ past future, deeds = past ++ future →
        ((scene.worked command).undergoAll past).wearsVoid =
          true := by
    intro past future hSplit
    exact hOn _ ⟨past, future, hSplit ▸ hEnsues, rfl⟩
  have hWorked :
      (scene.worked command).session.condition =
        (.void, some held) := by
    refine hVoid.condition_worked.resolve_right ?_
    rintro ⟨-, hOff⟩
    have hWears := hMoments [] deeds rfl
    simp [undergoAll, hOff] at hWears
  rw [hEnsues.scene_eq]
  exact (condition_undergoAll (hEnsues.areCalm hCalm)
    hMoments).trans hWorked

end Calm

end Scene

------------------------------------------------------------
-- Calm Content
------------------------------------------------------------

/- No puzzle and no script sets the player's condition. -/
structure Content.IsCalm (content : Content) : Prop where
  puzzles :
    ∀ puzzle ∈ content.puzzles,
      ∀ effect ∈ puzzle.effects, effect.IsCalm
  scripts :
    ∀ script ∈ content.scripts,
      ∀ effect ∈ script.effects, effect.IsCalm

theorem Content.IsCalm.effects_ofContent
    {content : Content}
    (hCalm : content.IsCalm) :
    ∀ effect ∈ (World.ofContent content).effects,
      effect.IsCalm := by
  intro effect hMem
  rcases List.mem_append.mp hMem with hPuzzle | hScript
  · rcases List.mem_flatMap.mp hPuzzle with
      ⟨puzzle, hPuzzle, hEffect⟩
    exact hCalm.puzzles puzzle hPuzzle effect hEffect
  · rcases List.mem_flatMap.mp hScript with
      ⟨script, hScript, hEffect⟩
    exact hCalm.scripts script hScript effect hEffect

namespace Game

variable {first game : Game}
variable {line : String}
variable {moment : Scene}
variable {held : PlayerState}

------------------------------------------------------------
-- Lines
------------------------------------------------------------

theorem steady_nextTurn (scene : Scene) :
    Scene.Steady scene (nextTurn scene) where
  condition := rfl
  worn := fun _ hWears => hWears

theorem voidLaw_nextTurn
    {scene : Scene}
    (hLaw : scene.VoidLaw) :
    (nextTurn scene).VoidLaw :=
  hLaw.steady (steady_nextTurn scene)

theorem steady_recordChanges (scene : Scene) :
    Scene.Steady scene (recordChanges scene) := by
  rw [recordChanges_eq]
  exact ⟨rfl, fun _ hWears => hWears⟩

/- What is recorded after a turn is not the condition. -/
theorem condition_execute (game : Game) (line : String) :
    (game.execute line).value.1.scene.session.condition =
      (game.turn line).scene.session.condition := by
  rw [scene_execute]
  exact (steady_recordChanges _).condition

/- The last moment of a turn is its end. -/
theorem passes_turn (game : Game) (line : String) :
    game.Passes line (game.turn line).scene :=
  Scene.passes_last _ _ _

/- Counting a turn does not change what a noun means. -/
theorem target_nextTurn
    (scene : Scene)
    (command : Command)
    (verb : Verb) :
    (nextTurn scene).target command verb =
      scene.target command verb := by
  have hWorld : (nextTurn scene).world = scene.world := rfl
  have hReach : (nextTurn scene).canReach = scene.canReach :=
    rfl
  have hMissing : (nextTurn scene).missing = scene.missing :=
    rfl
  simp only [Scene.target, Scene.named, Scene.resolve,
    Scene.thing, hWorld, hReach, hMissing]

theorem warranted_of_nextTurn
    {scene after : Scene}
    {command : Command}
    (hWarranted :
      Scene.Warranted (nextTurn scene) command after) :
    Scene.Warranted scene command after where
  asleep := hWarranted.asleep
  awake := hWarranted.awake
  void := by
    intro hBefore hAfter
    rcases hWarranted.void hBefore hAfter with
      ⟨verb, rule, thing, hVerb, hChoice, hRule, hTarget,
        hThing, hHere⟩
    rw [target_nextTurn] at hTarget
    exact ⟨verb, rule, thing, hVerb, hChoice, hRule, hTarget,
      hThing, hHere⟩

/- The player is the void in the line, from what they were. -/
def VoidIn
    (game : Game)
    (line : String)
    (held : PlayerState) : Prop :=
  (nextTurn game.scene).VoidIn (Command.ofLine line) held

/- Who is the void before a line is the void in it. -/
theorem VoidIn.of_condition
    (hVoid : game.session.condition = (.void, some held))
    (line : String) :
    game.VoidIn line held :=
  Or.inl hVoid

section Calm

variable (hLaw : game.scene.VoidLaw)
variable (hCalm :
  ∀ effect ∈ game.world.effects, effect.IsCalm)

include hLaw hCalm

theorem voidLaw_execute (line : String) :
    (game.execute line).value.1.scene.VoidLaw := by
  have hTurn :=
    ((passes_turn game line).subsides (voidLaw_nextTurn hLaw)
      hCalm).1
  rw [scene_execute]
  exact hTurn.steady (steady_recordChanges _)

theorem Passes.warranted_line
    (hPasses : game.Passes line moment) :
    game.scene.Warranted (Command.ofLine line) moment :=
  warranted_of_nextTurn
    (Scene.Passes.warranted (voidLaw_nextTurn hLaw) hCalm
      hPasses)

theorem warranted_execute (line : String) :
    game.scene.Warranted (Command.ofLine line)
      (game.execute line).value.1.scene :=
  ((passes_turn game line).warranted_line hLaw hCalm
    ).of_condition_eq (condition_execute game line)

/- A line that makes the void of one ends with them as it. -/
theorem voidIn_of_becomes
    (hHeld : game.session.playerState = held)
    (hFree : held ≠ .void)
    (hVoid :
      (game.execute line).value.1.scene.session.playerState =
        .void) :
    game.VoidIn line held := by
  have hTurn :
      (game.turn line).scene.session.playerState = .void :=
    (Session.playerState_eq
      (condition_execute game line)).symm.trans hVoid
  refine Or.inr ⟨hHeld, hFree, ?_⟩
  rcases ((passes_turn game line).subsides
      (voidLaw_nextTurn hLaw) hCalm).2.1 with
    hSame | ⟨hWorked, -⟩
  · exact (Session.playerState_eq hSame).symm.trans hTurn
  · exact hWorked

/- Who is the void in a line and after it has in mind why. -/
theorem VoidIn.condition_execute
    (hVoidIn : game.VoidIn line held)
    (hVoid :
      (game.execute line).value.1.scene.session.playerState =
        .void) :
    (game.execute line).value.1.scene.session.condition =
      (.void, some held) := by
  have hTurn := Game.condition_execute game line
  have hState := Session.playerState_eq hTurn
  rw [hTurn]
  rcases Scene.Passes.condition (voidLaw_nextTurn hLaw) hCalm
      hVoidIn (passes_turn game line) with
    hStill | ⟨hBack, hFree⟩
  · exact hStill
  · have hHeld := (Session.condition_eq_iff.mp hBack).1
    rw [hState] at hVoid
    exact absurd (hHeld.symm.trans hVoid) hFree

/- Once the thing is off, the line ends as one was before. -/
theorem VoidIn.returned
    (hVoidIn : game.VoidIn line held)
    (hPasses : game.Passes line moment)
    (hOff : moment.wearsVoid = false) :
    moment.session.condition = (held, none) ∧
      (game.execute line).value.1.scene.session.condition =
        (held, none) := by
  rw [Game.condition_execute, turn]
  exact Scene.Passes.returned (voidLaw_nextTurn hLaw) hCalm
    hVoidIn hPasses hOff

omit hLaw in
/- While the thing stays on, the player stays the void. -/
theorem VoidIn.lasts
    (hVoidIn : game.VoidIn line held)
    (hOn :
      ∀ moment, game.Passes line moment →
        moment.wearsVoid = true) :
    (game.execute line).value.1.scene.session.condition =
      (.void, some held) := by
  rw [Game.condition_execute, turn]
  have hQuiet :
      ∀ effect ∈ (nextTurn game.scene).world.effects,
        effect.IsCalm :=
    hCalm
  exact Scene.VoidIn.lasts hQuiet hVoidIn
    game.settings.maxPasses hOn

end Calm

------------------------------------------------------------
-- Runs
------------------------------------------------------------

/- The game after lines. -/
def after (game : Game) (lines : List String) : Game :=
  (game.executeAll lines).value.1

theorem after_concat
    (game : Game)
    (lines : List String)
    (line : String) :
    game.after (lines ++ [line]) =
      ((game.after lines).execute line).value.1 := by
  unfold after
  induction lines generalizing game with
  | nil => rfl
  | cons earlier rest ih =>
      exact ih (game.execute earlier).value.1

/- Lines never change the plot. -/
theorem plot_after
    (first : Game)
    (lines : List String) :
    (first.after lines).world.plot = first.world.plot :=
  executeAll_keeps
    (fun after => after.world.plot = first.world.plot)
    (fun after line hSame =>
      (plot_execute after line).trans hSame)
    rfl lines

theorem rules_after
    (first : Game)
    (lines : List String) :
    (first.after lines).world.rules = first.world.rules :=
  congrArg Prod.fst (plot_after first lines)

/-
  The player is the void after lines, and was something else
  before the line that made them so.
-/
inductive VoidSince
    (first : Game)
    (held : PlayerState) : List String → Prop where
| entered
    (lines : List String)
    (line : String)
    (hHeld : (first.after lines).session.playerState = held)
    (hFree : held ≠ .void)
    (hVoid :
      (first.after (lines ++ [line])).session.playerState =
        .void) :
    VoidSince first held (lines ++ [line])
| stayed
    {lines : List String}
    (line : String)
    (hSince : VoidSince first held lines)
    (hVoid :
      (first.after (lines ++ [line])).session.playerState =
        .void) :
    VoidSince first held (lines ++ [line])

/- Whoever is the void has been something else before. -/
theorem exists_voidSince
    (hFree : first.session.playerState ≠ .void)
    {lines : List String}
    (hVoid :
      (first.after lines).session.playerState = .void) :
    ∃ held, first.VoidSince held lines := by
  induction lines using List.reverseRecOn with
  | nil => exact absurd hVoid hFree
  | append_singleton lines line ih =>
      -- The last line is the one, unless one was it before.
      by_cases hBefore :
          (first.after lines).session.playerState = .void
      · rcases ih hBefore with ⟨held, hSince⟩
        exact ⟨held, .stayed line hSince hVoid⟩
      · exact ⟨_, .entered lines line rfl hBefore hVoid⟩

section Calm

variable (hLaw : first.scene.VoidLaw)
variable (hCalm :
  ∀ effect ∈ first.world.effects, effect.IsCalm)

include hCalm

theorem calm_after (lines : List String) :
    ∀ effect ∈ (first.after lines).world.effects,
      effect.IsCalm := by
  rw [World.effects_of_plot_eq (plot_after first lines)]
  exact hCalm

include hLaw

/- The law of the void holds after all lines. -/
theorem voidLaw_after (lines : List String) :
    (first.after lines).scene.VoidLaw := by
  induction lines using List.reverseRecOn with
  | nil => exact hLaw
  | append_singleton lines line ih =>
      rw [after_concat]
      exact voidLaw_execute ih (calm_after hCalm lines) line

/- What the player was before is kept in mind. -/
theorem VoidSince.condition
    {lines : List String}
    (hSince : first.VoidSince held lines) :
    (first.after lines).session.condition =
      (.void, some held) := by
  induction hSince with
  | entered lines line hHeld hFree hVoid =>
      have hBefore := voidLaw_after hLaw hCalm lines
      have hQuiet := calm_after hCalm lines
      rw [after_concat, session] at hVoid ⊢
      exact (voidIn_of_becomes hBefore hQuiet hHeld hFree
        hVoid).condition_execute hBefore hQuiet hVoid
  | @stayed lines line hSince hVoid ih =>
      have hVoidIn := VoidIn.of_condition ih line
      rw [after_concat, session] at hVoid ⊢
      exact hVoidIn.condition_execute
        (voidLaw_after hLaw hCalm lines)
        (calm_after hCalm lines) hVoid

end Calm

/-
  What a line does to the condition: at every moment of it,
  and after it, the change since the scene before is as is
  warranted. If the player is the void in the line, then at
  a moment at which the thing is off they are what they were,
  and still are after the line, and if the thing is never off
  they stay the void.
-/
structure IsLawful (game : Game) (line : String) : Prop where
  warranted :
    ∀ moment, game.Passes line moment →
      game.scene.Warranted (Command.ofLine line) moment
  warrantedAfter :
    game.scene.Warranted (Command.ofLine line)
      (game.execute line).value.1.scene
  returns :
    ∀ held, game.VoidIn line held →
      ∀ moment, game.Passes line moment →
        moment.wearsVoid = false →
          moment.session.condition = (held, none) ∧
            (game.execute line).value.1.session.condition =
              (held, none)
  lasts :
    ∀ held, game.VoidIn line held →
      (∀ moment, game.Passes line moment →
        moment.wearsVoid = true) →
          (game.execute line).value.1.session.condition =
            (.void, some held)

/-
  In calm content, whatever lines are played: the player is
  the void exactly while something is kept in mind for
  after it, that is what they were before the line that made
  them the void, and every next line is lawful.
-/
theorem void_law_of_calm
    {content : Content}
    (hCalm : content.IsCalm)
    (settings : Settings)
    (id : SessionId)
    (lines : List String) :
    let first := fresh settings content id
    let game := first.after lines
    game.world.rules = content.rules ∧
      game.scene.VoidLaw ∧
      (game.session.playerState = .void →
        ∃ held, first.VoidSince held lines) ∧
      (∀ held, first.VoidSince held lines →
        game.session.condition = (.void, some held)) ∧
      ∀ line, game.IsLawful line := by
  intro first game
  have hEffects :
      ∀ effect ∈ first.world.effects, effect.IsCalm :=
    hCalm.effects_ofContent
  have hOpening : first.scene.VoidLaw :=
    Scene.voidLaw_of_condition_eq rfl (Or.inl rfl)
  have hState : first.session.playerState = .normal := rfl
  have hFree : first.session.playerState ≠ .void := by
    simp [hState]
  have hLaw : game.scene.VoidLaw :=
    voidLaw_after hOpening hEffects lines
  have hQuiet := calm_after hEffects lines
  refine ⟨rules_after first lines, hLaw,
    exists_voidSince hFree,
    fun held => VoidSince.condition hOpening hEffects, ?_⟩
  intro line
  exact
    { warranted := by
        intro moment hPasses
        exact hPasses.warranted_line hLaw hQuiet
      warrantedAfter := warranted_execute hLaw hQuiet line
      returns := by
        intro held hVoid moment hPasses hOff
        exact hVoid.returned hLaw hQuiet hPasses hOff
      lasts := by
        intro held hVoid hOn
        exact hVoid.lasts hQuiet hOn }

/- A hall to dream in, and a cloak that makes one the void. -/
def dreamersHall : Content where
  rules :=
    { startRoom := "hall"
      dream :=
        some { wakingRoom := "hall", dreamingRoom := "hall" }
      void := some { thing := "cloak", room := "hall" } }
  rooms := [{ id := "hall", name := "Hall" }]
  things :=
    [{ id := "cloak"
       name := "cloak"
       placement := .room "hall"
       isWearable := true }]

/- Who puts the cloak on in a dream is in it without it. -/
theorem dreaming_without_cloak :
    let first := fresh {} dreamersHall ⟨0⟩
    let game := first.after ["sleep", "wear cloak"]
    dreamersHall.IsCalm ∧
      first.VoidSince .dreaming ["sleep", "wear cloak"] ∧
      (game.execute "drop cloak").value.1.session.condition =
        (.dreaming, none) := by
  intro first game
  have hCalm : dreamersHall.IsCalm :=
    { puzzles := by decide, scripts := by decide }
  have hSince :
      first.VoidSince .dreaming ["sleep", "wear cloak"] :=
    .entered ["sleep"] "wear cloak" (by decide +kernel)
      (by decide) (by decide +kernel)
  rcases void_law_of_calm hCalm {} ⟨0⟩
      ["sleep", "wear cloak"] with ⟨-, -, -, hHeld, hLines⟩
  have hOff : (game.worked "drop cloak").wearsVoid = false :=
    by decide +kernel
  have hReturns :=
    (hLines "drop cloak").returns .dreaming
      (.of_condition (hHeld .dreaming hSince) _) _
      (Scene.passes_worked _ _ _) hOff
  exact ⟨hCalm, hSince, hReturns.2⟩

end Game

end TextAdventure
