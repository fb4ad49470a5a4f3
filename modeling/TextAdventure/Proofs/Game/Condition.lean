import TextAdventure.Proofs.Game.Deeds
import TextAdventure.Proofs.Scene.Consistency

/-
  The condition of the player, and the void above all.

  Who becomes the void keeps in mind what they were before.
  Every change of a scene either leaves the condition alone
  or lets the void go, and lets it go just when its thing
  comes off, in whatever way. Only three verbs do more:
  sleeping, waking, and putting on the thing of the void.

  Main declarations:
    * `Scene.wearsVoid`
    * `Scene.VoidLaw`
    * `Scene.Drifts`
    * `Scene.VoidLaw.drift`
    * `Scene.Touches.drifts`
    * `Scene.Shifts`
    * `Scene.Works.shifts`
    * `Scene.VoidLaw.shift`
-/

namespace TextAdventure

------------------------------------------------------------
-- Conditions
------------------------------------------------------------

namespace Session

/- What the player is, and what they were before the void. -/
def condition (session : Session) :
    PlayerState × Option PlayerState :=
  (session.playerState, session.suspendedState)

theorem condition_eq_iff
    {session : Session}
    {state : PlayerState}
    {suspended : Option PlayerState} :
    session.condition = (state, suspended) ↔
      session.playerState = state ∧
        session.suspendedState = suspended :=
  Prod.mk.injEq .. ▸ Iff.rfl

theorem playerState_eq
    {left right : Session}
    (hSame : left.condition = right.condition) :
    left.playerState = right.playerState :=
  congrArg Prod.fst hSame

theorem suspendedState_eq
    {left right : Session}
    (hSame : left.condition = right.condition) :
    left.suspendedState = right.suspendedState :=
  congrArg Prod.snd hSame

variable (session : Session)

@[simp] theorem condition_addItem (id : String) :
    (session.addItem id).condition = session.condition := by
  unfold addItem
  split <;> rfl

@[simp] theorem condition_putOn (id : String) :
    (session.putOn id).condition = session.condition := by
  unfold putOn
  split <;> rfl

@[simp] theorem condition_recordOpened (exit : String) :
    (session.recordOpened exit).condition =
      session.condition := by
  unfold recordOpened
  split <;> rfl

@[simp] theorem condition_recordVisit (room : String) :
    (session.recordVisit room).condition =
      session.condition := by
  unfold recordVisit
  split <;> rfl

end Session

namespace Scene

/- Whether the thing of the void is carried and worn. -/
def wearsVoid (scene : Scene) : Bool :=
  match scene.world.rules.void with
  | some rule =>
      scene.world.isCarried rule.thing &&
        scene.world.isWorn rule.thing
  | none => false

variable {scene before after : Scene}

theorem wearsVoid_eq_true_iff :
    scene.wearsVoid = true ↔
      ∃ rule thing,
        scene.world.rules.void = some rule ∧
          scene.world.thing? rule.thing = some thing ∧
          thing.placement = .carried ∧
          thing.isWorn = true := by
  unfold wearsVoid World.isCarried World.isWorn
  cases scene.world.rules.void with
  | none => simp
  | some rule =>
      cases hThing : scene.world.thing? rule.thing <;>
        simp [hThing]

/- The thing of the rule that a scene is under. -/
theorem isVoidThing_iff
    {rules : StoryRules}
    {id : String} :
    rules.isVoidThing id = true ↔
      ∃ rule, rules.void = some rule ∧ rule.thing = id := by
  unfold StoryRules.isVoidThing
  cases rules.void <;> simp

/-
  The law of the void: a condition is kept in mind exactly
  while the player is the void, it is a condition of the
  living, and the thing of the void is carried and worn.
-/
structure VoidLaw (scene : Scene) : Prop where
  suspended_iff :
    scene.session.playerState = .void ↔
      scene.session.suspendedState.isSome = true
  worn :
    scene.session.playerState = .void →
      scene.wearsVoid = true
  earlier :
    ∀ state, scene.session.suspendedState = some state →
      state = .normal ∨ state = .dreaming
  alive : scene.session.playerState ≠ .dead

/-
  A change that leaves the condition of the player alone and
  does not take off the thing of the void.
-/
structure Steady (before after : Scene) : Prop where
  condition :
    after.session.condition = before.session.condition
  worn :
    before.session.playerState = .void →
      before.wearsVoid = true → after.wearsVoid = true

theorem Steady.refl (scene : Scene) : Steady scene scene where
  condition := rfl
  worn := fun _ hWears => hWears

theorem Steady.playerState
    (hSteady : Steady before after) :
    after.session.playerState = before.session.playerState :=
  Session.playerState_eq hSteady.condition

theorem Steady.suspendedState
    (hSteady : Steady before after) :
    after.session.suspendedState =
      before.session.suspendedState :=
  Session.suspendedState_eq hSteady.condition

theorem Steady.trans
    {middle : Scene}
    (hFirst : Steady before middle)
    (hSecond : Steady middle after) :
    Steady before after where
  condition := hSecond.condition.trans hFirst.condition
  worn := by
    intro hVoid hWears
    apply hSecond.worn
    · rw [hFirst.playerState]
      exact hVoid
    · exact hFirst.worn hVoid hWears

/- The law hangs on the condition and the thing only. -/
theorem VoidLaw.steady
    (hLaw : before.VoidLaw)
    (hSteady : Steady before after) :
    after.VoidLaw := by
  have hState := hSteady.playerState
  have hSuspended := hSteady.suspendedState
  exact
    { suspended_iff := by
        rw [hState, hSuspended]
        exact hLaw.suspended_iff
      worn := by
        intro hVoid
        rw [hState] at hVoid
        exact hSteady.worn hVoid (hLaw.worn hVoid)
      earlier := by
        rw [hSuspended]
        exact hLaw.earlier
      alive := by
        rw [hState]
        exact hLaw.alive }

------------------------------------------------------------
-- Drifting
------------------------------------------------------------

/- A steady change, or one that ends the void with its thing. -/
inductive Drifts (before after : Scene) : Prop where
| stays
    (hSteady : Steady before after)
| returns
    (hVoid : before.session.playerState = .void)
    (hCondition :
      after.session.condition =
        (before.session.suspendedState.getD .normal, none))
    (hOff : after.wearsVoid = false)

/- Whoever is the void was living before. -/
theorem VoidLaw.exists_suspended
    (hLaw : scene.VoidLaw)
    (hVoid : scene.session.playerState = .void) :
    ∃ state, scene.session.suspendedState = some state ∧
      (state = .normal ∨ state = .dreaming) := by
  rcases Option.isSome_iff_exists.mp
      (hLaw.suspended_iff.mp hVoid) with
    ⟨state, hState⟩
  exact ⟨state, hState, hLaw.earlier state hState⟩

theorem VoidLaw.suspendedState_eq_none
    (hLaw : scene.VoidLaw)
    (hFree : scene.session.playerState ≠ .void) :
    scene.session.suspendedState = none := by
  rw [Ne, hLaw.suspended_iff] at hFree
  simpa using hFree

/- Where nothing is kept in mind, the living are lawful. -/
theorem voidLaw_of_condition_eq
    {state : PlayerState}
    (hCondition : scene.session.condition = (state, none))
    (hState : state = .normal ∨ state = .dreaming) :
    scene.VoidLaw := by
  rcases Session.condition_eq_iff.mp hCondition with
    ⟨hNow, hSuspended⟩
  have hFree : scene.session.playerState ≠ .void := by
    rcases hState with rfl | rfl <;> simp [hNow]
  exact
    { suspended_iff := by simp [hFree, hSuspended]
      worn := fun hVoid => absurd hVoid hFree
      earlier := by simp [hSuspended]
      alive := by rcases hState with rfl | rfl <;> simp [hNow] }

/- Drifting keeps the law. -/
theorem VoidLaw.drift
    (hLaw : before.VoidLaw)
    (hDrifts : Drifts before after) :
    after.VoidLaw := by
  cases hDrifts with
  | stays hSteady => exact hLaw.steady hSteady
  | returns hVoid hCondition hOff =>
      rcases hLaw.exists_suspended hVoid with
        ⟨state, hState, hLiving⟩
      rw [hState, Option.getD_some] at hCondition
      exact voidLaw_of_condition_eq hCondition hLiving

------------------------------------------------------------
-- Things On And Off
------------------------------------------------------------

theorem isWorn_of_isVoidThing
    {id : String}
    (hWears : scene.wearsVoid = true)
    (hVoid : scene.world.rules.isVoidThing id = true) :
    scene.world.isWorn id = true := by
  rcases isVoidThing_iff.mp hVoid with ⟨rule, hRule, rfl⟩
  simp only [wearsVoid, hRule, Bool.and_eq_true] at hWears
  exact hWears.2

/- What else is changed leaves the thing of the void on. -/
theorem wearsVoid_of_others
    {id : String}
    (hWears : before.wearsVoid = true)
    (hRules : after.world.rules = before.world.rules)
    (hOther : before.world.rules.isVoidThing id = false)
    (hOthers :
      ∀ other, other ≠ id →
        after.world.thing? other =
          before.world.thing? other) :
    after.wearsVoid = true := by
  rcases wearsVoid_eq_true_iff.mp hWears with
    ⟨rule, thing, hRule, hThing, hCarried, hWorn⟩
  have hNe : rule.thing ≠ id := by
    rintro rfl
    have hSame :=
      isVoidThing_iff.mpr ⟨rule, hRule, rfl⟩
    rw [hOther] at hSame
    simp at hSame
  refine wearsVoid_eq_true_iff.mpr
    ⟨rule, thing, ?_, ?_, hCarried, hWorn⟩
  · rw [hRules]
    exact hRule
  · rw [hOthers rule.thing hNe]
    exact hThing

/- A change of a thing that takes nothing off. -/
theorem steady_of_updateThing
    {change : Thing → Thing}
    {id : String}
    (hCondition :
      after.session.condition = before.session.condition)
    (hWorld :
      after.world = before.world.updateThing id change)
    (hId : ∀ thing, (change thing).id = thing.id)
    (hPlacement :
      ∀ thing, (change thing).placement = thing.placement)
    (hWorn :
      ∀ thing, thing.isWorn = true →
        (change thing).isWorn = true) :
    Steady before after := by
  refine ⟨hCondition, ?_⟩
  intro _ hWears
  rcases wearsVoid_eq_true_iff.mp hWears with
    ⟨rule, thing, hRule, hThing, hCarried, hOn⟩
  rw [wearsVoid_eq_true_iff, hWorld]
  by_cases hSame : rule.thing = id
  · subst hSame
    refine ⟨rule, change thing, by simpa using hRule, ?_, ?_,
      hWorn thing hOn⟩
    · rw [World.thing?_updateThing_self _ hId, hThing]
      rfl
    · rw [hPlacement]
      exact hCarried
  · refine ⟨rule, thing, by simpa using hRule, ?_, hCarried,
      hOn⟩
    rw [World.thing?_updateThing_of_ne _ hId hSame]
    exact hThing

theorem steady_written
    (scene : Scene)
    (id : String)
    (field? : Option Field)
    (value : Value) :
    Steady scene
      (scene.updateThing id
        (Thing.written field? value)) :=
  steady_of_updateThing rfl rfl
    (Thing.written_id field? value)
    (Thing.written_placement field? value)
    (fun thing hWorn => by simpa using hWorn)

/- With a thing off, the void ends if it was that thing's. -/
theorem drifts_afterUnworn
    {left : Scene}
    {id : String}
    (hCondition :
      left.session.condition = before.session.condition)
    (hRules : left.world.rules = before.world.rules)
    (hOff : left.world.isWorn id = false)
    (hOthers :
      ∀ other, other ≠ id →
        left.world.thing? other =
          before.world.thing? other) :
    Drifts before (left.afterUnworn id) := by
  have hState :
      left.session.playerState = before.session.playerState :=
    Session.playerState_eq hCondition
  have hSuspended :
      left.session.suspendedState =
        before.session.suspendedState :=
    Session.suspendedState_eq hCondition
  unfold afterUnworn
  split
  · rename_i hEnds
    rw [Bool.and_eq_true, beq_iff_eq, hState] at hEnds
    rcases isVoidThing_iff.mp hEnds.1 with
      ⟨rule, hRule, rfl⟩
    refine .returns hEnds.2 ?_ ?_
    · simp [Session.condition, hSuspended]
    · simp [wearsVoid, hRule, hOff]
  · rename_i hLasts
    refine .stays ⟨hCondition, ?_⟩
    intro hVoid hWears
    have hOther :
        before.world.rules.isVoidThing id = false := by
      simpa [hRules, hState, hVoid] using hLasts
    exact wearsVoid_of_others hWears hRules hOther hOthers

/- Putting a thing on takes nothing off. -/
theorem steady_setWorn_true (scene : Scene) (id : String) :
    Steady scene (scene.setWorn id true) := by
  refine steady_of_updateThing ?_ (setWorn_world scene id true)
    ?_ ?_ ?_
  · exact Session.condition_putOn scene.session id
  · exact fun _ => rfl
  · exact fun _ => rfl
  · exact fun _ _ => rfl

theorem drifts_setWorn_false (scene : Scene) (id : String) :
    Drifts scene (scene.setWorn id false) := by
  have hKeeps :
      ∀ thing : Thing,
        { thing with isWorn := false }.id = thing.id :=
    fun _ => rfl
  refine drifts_afterUnworn rfl ?_ ?_ ?_
  · simp [updateThing]
  · simp only [updateThing, World.isWorn,
      World.thing?_updateThing_self _ hKeeps]
    cases scene.world.thing? id <;> rfl
  · intro other hNe
    exact World.thing?_updateThing_of_ne _ hKeeps hNe

/- A thing that is moved to the player stays on if it is. -/
theorem steady_of_place_carried
    {id : String}
    (hPlace : before.place id .carried = .ok after) :
    Steady before after := by
  rcases relocate_of_place hPlace with ⟨old, hRelocate⟩
  rcases World.relocate_eq_ok_iff.mp hRelocate with
    ⟨thing, hThing, -, -, hWorld⟩
  refine ⟨?_, ?_⟩
  · rw [session_of_place_carried hPlace]
    exact Session.condition_addItem _ id
  intro _ hWears
  rcases wearsVoid_eq_true_iff.mp hWears with
    ⟨rule, worn, hRule, hFound, hCarried, hWorn⟩
  rw [wearsVoid_eq_true_iff, hWorld]
  by_cases hSame : rule.thing = id
  · subst hSame
    cases hThing.symm.trans hFound
    refine ⟨rule, World.placeThing .carried thing,
      by simpa using hRule, ?_, rfl, ?_⟩
    · rw [World.thing?_moveTo_self, hThing]
      rfl
    · simp [World.placeThing, hWorn, Placement.isCarried]
  · refine ⟨rule, worn, by simpa using hRule, ?_, hCarried,
      hWorn⟩
    rw [World.thing?_moveTo_of_ne hSame]
    exact hFound

/- A thing that is moved elsewhere comes off. -/
theorem drifts_of_place
    {id : String}
    {target : Placement}
    (hPlace : before.place id target = .ok after) :
    Drifts before after := by
  by_cases hTarget : target = .carried
  · subst hTarget
    exact .stays (steady_of_place_carried hPlace)
  unfold place at hPlace
  split at hPlace
  · simp at hPlace
  rename_i world old hRelocate
  rcases World.relocate_eq_ok_iff.mp hRelocate with
    ⟨thing, hThing, -, -, hWorld⟩
  have hRules : world.rules = before.world.rules := by
    rw [hWorld, World.moveTo_rules]
  have hOthers :
      ∀ other, other ≠ id →
        world.thing? other = before.world.thing? other := by
    intro other hNe
    rw [hWorld]
    exact World.thing?_moveTo_of_ne hNe _ target
  have hOff : world.isWorn id = false := by
    simp [World.isWorn, hWorld, World.thing?_moveTo_self,
      hThing, World.placeThing, Bool.eq_false_iff, hTarget]
  rw [if_neg (by simpa using hTarget)] at hPlace
  dsimp only at hPlace
  split at hPlace
  · cases hPlace
    exact drifts_afterUnworn rfl hRules hOff hOthers
  · rename_i hLoose
    cases hPlace
    refine .stays ⟨rfl, ?_⟩
    intro _ hWears
    refine wearsVoid_of_others hWears hRules ?_ hOthers
    rw [← Bool.not_eq_true]
    exact fun hVoid =>
      hLoose (isWorn_of_isVoidThing hWears hVoid)

------------------------------------------------------------
-- Deeds
------------------------------------------------------------

end Scene

/- An effect that does not set the player's condition. -/
def Effect.IsCalm : Effect → Prop
| .setPlayerState _ => False
| _ => True

instance : DecidablePred Effect.IsCalm
| .unlockExit _ => isTrue trivial
| .revealThing _ => isTrue trivial
| .setFlag _ _ => isTrue trivial
| .moveThing _ _ => isTrue trivial
| .triggerEvent _ => isTrue trivial
| .setProperty _ _ _ => isTrue trivial
| .setPlayerState _ => isFalse id

namespace Scene

variable {scene before after : Scene}
variable {command : Command}

theorem steady_enterRoom (scene : Scene) (room : String) :
    Steady scene (scene.enterRoom room) where
  condition := Session.condition_recordVisit _ room
  worn := fun _ hWears => hWears

/- A calm effect lets the scene drift. -/
theorem Touches.drifts
    {effect : Effect}
    (hTouches : Touches before effect after)
    (hCalm : effect.IsCalm) :
    Drifts before after := by
  cases hTouches with
  | idle => exact .stays (.refl before)
  | unlock hUnblock =>
      rcases (World.unblockExit_eq_ok_iff _).mp hUnblock with
        ⟨key, -, -, -, -, -, -, rfl⟩
      exact .stays
        ⟨Session.condition_recordOpened _ _,
          fun _ hWears => hWears⟩
  | reveal | write =>
      exact .stays (steady_written before _ _ _)
  | flag | event => exact .stays ⟨rfl, fun _ hWears => hWears⟩
  | place hPlace => exact drifts_of_place hPlace
  | putOn => exact .stays (steady_setWorn_true before _)
  | takeOff => exact drifts_setWorn_false before _
  | condition => exact hCalm.elim

/- All the effects among some deeds are calm. -/
def AreCalm (deeds : List Deed) : Prop :=
  ∀ effect, .effect effect ∈ deeds → effect.IsCalm

theorem drifts_undergo
    (scene : Scene)
    {deed : Deed}
    {later : List Deed}
    (hCalm : AreCalm (deed :: later)) :
    Drifts scene (scene.undergo deed) := by
  cases deed with
  | effect effect =>
      exact (applyEffect_touches scene effect).drifts
        (hCalm effect List.mem_cons_self)
  | fire | solve => exact .stays ⟨rfl, fun _ hWears => hWears⟩

theorem AreCalm.tail
    {deed : Deed}
    {later : List Deed}
    (hCalm : AreCalm (deed :: later)) :
    AreCalm later :=
  fun effect hMem =>
    hCalm effect (List.mem_cons_of_mem _ hMem)

/- The condition is as before, or as before the void. -/
def Subsides (before after : Scene) : Prop :=
  after.session.condition = before.session.condition ∨
    before.session.playerState = .void ∧
      after.session.condition =
        (before.session.suspendedState.getD .normal, none)

theorem Drifts.subsides
    (hDrifts : Drifts before after) :
    Subsides before after := by
  cases hDrifts with
  | stays hSteady => exact Or.inl hSteady.condition
  | returns hVoid hCondition =>
      exact Or.inr ⟨hVoid, hCondition⟩

/- Who is out of the void does not come into it again. -/
theorem Subsides.trans
    {middle : Scene}
    (hLaw : before.VoidLaw)
    (hFirst : Subsides before middle)
    (hSecond : Subsides middle after) :
    Subsides before after := by
  rcases hFirst with hSame | ⟨hVoid, hReturned⟩
  · have hState :
        middle.session.playerState =
          before.session.playerState :=
      Session.playerState_eq hSame
    have hSuspended :
        middle.session.suspendedState =
          before.session.suspendedState :=
      Session.suspendedState_eq hSame
    rcases hSecond with hStill | ⟨hVoid, hReturned⟩
    · exact Or.inl (hStill.trans hSame)
    · rw [hState] at hVoid
      rw [hSuspended] at hReturned
      exact Or.inr ⟨hVoid, hReturned⟩
  · rcases hSecond with hStill | ⟨hAgain, -⟩
    · exact Or.inr ⟨hVoid, hStill.trans hReturned⟩
    · have hState :
          middle.session.playerState =
            before.session.suspendedState.getD .normal :=
        (Session.condition_eq_iff.mp hReturned).1
      rcases hLaw.exists_suspended hVoid with
        ⟨state, hSuspended, hLiving⟩
      rw [hAgain, hSuspended, Option.getD_some] at hState
      rcases hLiving with rfl | rfl <;> simp at hState

/- Calm deeds keep the law, and the void ends or stays. -/
theorem VoidLaw.undergoAll
    (hLaw : scene.VoidLaw)
    {deeds : List Deed}
    (hCalm : AreCalm deeds) :
    (scene.undergoAll deeds).VoidLaw ∧
      Subsides scene (scene.undergoAll deeds) := by
  induction deeds generalizing scene with
  | nil => exact ⟨hLaw, Or.inl rfl⟩
  | cons deed rest ih =>
      have hDrifts := drifts_undergo scene hCalm
      rcases ih (hLaw.drift hDrifts) hCalm.tail with
        ⟨hLast, hRest⟩
      exact ⟨hLast, hDrifts.subsides.trans hLaw hRest⟩

/- The void stays as long as its thing never comes off. -/
theorem condition_undergoAll
    {deeds : List Deed}
    (hCalm : AreCalm deeds)
    (hOn :
      ∀ past future, deeds = past ++ future →
        (scene.undergoAll past).wearsVoid = true) :
    (scene.undergoAll deeds).session.condition =
      scene.session.condition := by
  induction deeds generalizing scene with
  | nil => rfl
  | cons deed rest ih =>
      have hRest :
          ((scene.undergo deed).undergoAll
              rest).session.condition =
            (scene.undergo deed).session.condition := by
        apply ih hCalm.tail
        intro past future hSplit
        exact hOn (deed :: past) future (by rw [hSplit]; rfl)
      refine hRest.trans ?_
      have hFirst : (scene.undergo deed).wearsVoid = true :=
        hOn [deed] rest rfl
      cases drifts_undergo scene hCalm with
      | stays hSteady => exact hSteady.condition
      | returns _ _ hOff => simp [hOff] at hFirst

------------------------------------------------------------
-- Work
------------------------------------------------------------

/-
  What the work of a verb does to the condition: it drifts,
  or the player falls asleep in the waking room, wakes up, or
  becomes the void by putting on its thing in its room.
-/
inductive Shifts (scene : Scene) (command : Command) :
    Verb → Scene → Prop where
| drifts
    {after : Scene}
    (verb : Verb)
    (hDrifts : Drifts scene after) :
    Shifts scene command verb after
| sleeps
    {after : Scene}
    {rule : DreamRule}
    (hRule : scene.world.rules.dream = some rule)
    (hNormal : scene.session.playerState = .normal)
    (hHere : scene.session.currentRoom = rule.wakingRoom)
    (hCondition :
      after.session.condition =
        (.dreaming, scene.session.suspendedState)) :
    Shifts scene command .sleep after
| wakes
    {after : Scene}
    (hDreaming : scene.session.playerState = .dreaming)
    (hCondition :
      after.session.condition =
        (.normal, scene.session.suspendedState)) :
    Shifts scene command .wake after
| becomesVoid
    {verb : Verb}
    {after : Scene}
    {rule : VoidRule}
    {thing : Thing}
    (hVerb : verb = .wear ∨ verb = .become)
    (hRule : scene.world.rules.void = some rule)
    (hTarget : scene.target command verb = .ok thing)
    (hThing : thing.id = rule.thing)
    (hHere : scene.session.currentRoom = rule.room)
    (hFree : scene.session.playerState ≠ .void)
    (hCondition :
      after.session.condition =
        (.void, some scene.session.playerState))
    (hWears : after.wearsVoid = true) :
    Shifts scene command verb after

theorem InHand.steady
    {thing : Thing}
    {held : Scene}
    (hInHand : scene.InHand thing held) :
    Steady scene held := by
  cases hInHand with
  | already => exact .refl scene
  | taken hPlace => exact steady_of_place_carried hPlace

theorem steady_of_openDoor
    {exit : Exit}
    {told : String}
    (hOk : scene.openDoor exit = .ok (after, told)) :
    Steady scene after := by
  rcases eq_or_opened_of_openDoor hOk with rfl | ⟨door, rfl⟩
  · exact .refl after
  · exact steady_written scene door (some (.flag .open))
      (.boolean true)

/- What has become the void wears its thing. -/
theorem wearsVoid_enterVoid
    {thing : Thing}
    {held : Scene}
    (hCarried : held.world.isCarried thing.id = true)
    (hVoid : held.world.rules.isVoidThing thing.id = true) :
    (held.setWorn thing.id true).enterVoid.wearsVoid =
      true := by
  have hKeeps :
      ∀ thing : Thing,
        { thing with isWorn := true }.id = thing.id :=
    fun _ => rfl
  rcases isVoidThing_iff.mp hVoid with ⟨rule, hRule, hSame⟩
  unfold World.isCarried at hCarried
  split at hCarried
  · rename_i found hFound
    rw [wearsVoid_eq_true_iff]
    refine ⟨rule, { found with isWorn := true }, ?_, ?_, ?_,
      rfl⟩
    · simpa [enterVoid] using hRule
    · rw [enterVoid, setWorn_world, hSame,
        World.thing?_updateThing_self _ hKeeps, hFound]
      rfl
    · simpa using hCarried
  · simp at hCarried

/- Putting a thing on is steady unless it is the void's. -/
theorem worn_shifts
    {verb : Verb}
    {thing : Thing}
    {held : Scene}
    (hVerb : verb = .wear ∨ verb = .become)
    (hTarget : scene.target command verb = .ok thing)
    (hHold : scene.hasHoldHere thing = true)
    (hInHand : scene.InHand thing held) :
    Shifts scene command verb (scene.worn thing held) := by
  unfold worn
  split
  · rename_i hTurns
    rw [turnsIntoVoid, Bool.and_eq_true, bne_iff_ne] at hTurns
    rcases hTurns with ⟨hVoid, hFree⟩
    rcases isVoidThing_iff.mp hVoid with
      ⟨rule, hRule, hSame⟩
    have hHere :
        rule.room = scene.session.currentRoom := by
      simpa [hasHoldHere, hRule, hSame] using hHold
    have hRules : held.world.rules = scene.world.rules := by
      have hEdits : PlainEdits (fun _ => True) scene held :=
        hInHand.edits
      exact congrArg Prod.fst hEdits.plot
    refine .becomesVoid hVerb hRule hTarget hSame.symm
      hHere.symm hFree ?_ ?_
    · have hState :
          (held.setWorn thing.id true).session.playerState =
            scene.session.playerState :=
        (hInHand.steady.trans
          (steady_setWorn_true held thing.id)).playerState
      simp [Session.condition, enterVoid, hState]
    · exact wearsVoid_enterVoid
        (hInHand.isCarried (thing?_of_target hTarget))
        (hRules ▸ hVoid)
  · exact .drifts verb (.stays (hInHand.steady.trans
      (steady_setWorn_true held thing.id)))

/- What a verb does to the condition of the player. -/
theorem Works.shifts
    {verb : Verb}
    (hWorks : Works scene command verb after) :
    Shifts scene command verb after := by
  cases hWorks with
  | idle => exact .drifts verb (.stays (.refl scene))
  | move thing target hPlace =>
      exact .drifts verb (drifts_of_place hPlace)
  | write _ thing field value hOfVerbs =>
      exact .drifts verb
        (.stays (steady_written scene thing (some field) _))
  | takeOff thing =>
      exact .drifts .remove (drifts_setWorn_false scene thing)
  | putOn hVerb hTarget hHold hInHand =>
      exact worn_shifts hVerb hTarget hHold hInHand
  | @go _ _ exit opened _ _ _ _ hDoor =>
      exact .drifts .go (.stays
        ((steady_of_openDoor hDoor).trans
          (steady_enterRoom opened exit.destination)))
  | fallAsleep hRule hNormal hHere hKnown =>
      exact .sleeps hRule hNormal hHere
        (Session.condition_recordVisit _ _)
  | wakeUp hRule hDreaming =>
      exact .wakes hDreaming
        (Session.condition_recordVisit _ _)

/- The work of every verb keeps the law of the void. -/
theorem VoidLaw.shift
    (hLaw : scene.VoidLaw)
    {verb : Verb}
    (hShifts : Shifts scene command verb after) :
    after.VoidLaw := by
  cases hShifts with
  | drifts _ hDrifts => exact hLaw.drift hDrifts
  | sleeps hRule hNormal hHere hCondition =>
      have hNone := hLaw.suspendedState_eq_none
        (by simp [hNormal])
      rw [hNone] at hCondition
      exact voidLaw_of_condition_eq hCondition (Or.inr rfl)
  | wakes hDreaming hCondition =>
      have hNone := hLaw.suspendedState_eq_none
        (by simp [hDreaming])
      rw [hNone] at hCondition
      exact voidLaw_of_condition_eq hCondition (Or.inl rfl)
  | becomesVoid hVerb hRule hTarget hThing hHere hFree
      hCondition hWears =>
      rcases Session.condition_eq_iff.mp hCondition with
        ⟨hVoid, hSuspended⟩
      have hAlive := hLaw.alive
      refine
        { suspended_iff := by simp [hVoid, hSuspended]
          worn := fun _ => hWears
          earlier := ?_
          alive := by simp [hVoid] }
      intro state hState
      rw [hSuspended, Option.some.injEq] at hState
      subst hState
      cases hNow : scene.session.playerState <;> simp_all

end Scene

end TextAdventure
