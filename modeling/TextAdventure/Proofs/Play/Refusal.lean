import TextAdventure.Play.Turn
import TextAdventure.Proofs.Play.Edits

/-
  What a refused command leaves behind.

  A verb checks all it needs before it changes the scene, and
  the report on the change is then given. Going and falling
  asleep check that the room they lead to is there. Waking
  does not, and so it is the one verb that changes the scene
  and is refused.

  Main declarations:
    * `Scene.IsStranded`
    * `Scene.handle_eq_error`
    * `Scene.perform_failure`
-/

namespace TextAdventure

namespace Scene

variable {scene after : Scene}
variable {command : Command}
variable {reply : Reply}
variable {refusal : Refusal}

------------------------------------------------------------
-- Reports On The Room
------------------------------------------------------------

/- The room around is told of if the world has it. -/
theorem exists_describeRoom_iff
    (scene : Scene) :
    (∃ text, scene.describeRoom = .ok text) ↔
      scene.session.currentRoom ∈
        Catalog.ids scene.world.rooms := by
  rw [← Catalog.has_eq_true_iff_mem_ids,
    ← Catalog.find?_isSome]
  unfold describeRoom
  simp only [demand_bind_eq_ok_iff]
  constructor
  · rintro ⟨text, room, hRoom, -⟩
    exact Option.isSome_iff_exists.mpr ⟨room, hRoom⟩
  · intro hKnown
    rcases Option.isSome_iff_exists.mp hKnown with
      ⟨room, hRoom⟩
    exact ⟨_, room, hRoom, rfl⟩

/- A refused change or report is the refusal of the verb. -/
theorem carryOut_eq_error_iff
    {α : Type}
    {change : Except Refusal (Scene × α)}
    {report : Scene → α → Except Refusal Reply} :
    scene.carryOut change report = (after, .error refusal) ↔
      change = .error refusal ∧ after = scene ∨
        ∃ told, change = .ok (after, told) ∧
          report after told = .error refusal := by
  cases change with
  | error other =>
      simp [carryOut, eq_comm, and_comm]
  | ok result =>
      rcases result with ⟨changed, told⟩
      simp only [carryOut, Prod.mk.injEq, Except.ok.injEq,
        reduceCtorEq, false_and, false_or]
      constructor
      · rintro ⟨rfl, hReport⟩
        exact ⟨told, ⟨rfl, rfl⟩, hReport⟩
      · rintro ⟨told, ⟨rfl, rfl⟩, hReport⟩
        exact ⟨rfl, hReport⟩

/- A change that was carried out has been reported on. -/
theorem carryOut_eq_ok_iff
    {α : Type}
    {change : Except Refusal (Scene × α)}
    {report : Scene → α → Except Refusal Reply} :
    scene.carryOut change report = (after, .ok reply) ↔
      ∃ told, change = .ok (after, told) ∧
        report after told = .ok reply := by
  cases change with
  | error refusal => simp [carryOut]
  | ok result =>
      rcases result with ⟨changed, told⟩
      simp only [carryOut, Prod.mk.injEq, Except.ok.injEq]
      constructor
      · rintro ⟨rfl, hReport⟩
        exact ⟨told, ⟨rfl, rfl⟩, hReport⟩
      · rintro ⟨told, ⟨rfl, rfl⟩, hReport⟩
        exact ⟨rfl, hReport⟩

/- A verb that is settled changes nothing when refused. -/
theorem eq_of_settle_eq_error
    {handled : Handled}
    (hError :
      scene.settle handled = (after, .error refusal)) :
    after = scene := by
  cases handled with
  | error other => simp_all [settle]
  | ok result => simp [settle] at hError

/- With a known room around, no report is refused. -/
theorem describeRoom_ne_error
    (hRoom :
      scene.session.currentRoom ∈
        Catalog.ids scene.world.rooms) :
    scene.describeRoom ≠ .error refusal := by
  rcases (exists_describeRoom_iff scene).mpr hRoom with
    ⟨text, hText⟩
  simp [hText]

------------------------------------------------------------
-- Going
------------------------------------------------------------

@[simp] theorem ids_enterRoom_rooms
    (scene : Scene)
    (room : String) :
    Catalog.ids (scene.enterRoom room).world.rooms =
      Catalog.ids scene.world.rooms :=
  World.ids_rooms_of_layout_eq
    (World.layout_visit scene.world room)

@[simp] theorem enterRoom_currentRoom
    (scene : Scene)
    (room : String) :
    (scene.enterRoom room).session.currentRoom = room := by
  simp only [enterRoom, Session.recordVisit]
  split <;> rfl

@[simp] theorem enterRoom_playerState
    (scene : Scene)
    (room : String) :
    (scene.enterRoom room).session.playerState =
      scene.session.playerState := by
  simp only [enterRoom, Session.recordVisit]
  split <;> rfl

/- A door is a thing, and opening it leaves rooms alone. -/
theorem rooms_of_openDoor
    {exit : Exit}
    {told : String}
    (hOk : scene.openDoor exit = .ok (after, told)) :
    after.world.rooms = scene.world.rooms := by
  rcases eq_or_opened_of_openDoor hOk with rfl | ⟨door, rfl⟩
  · rfl
  · simp [updateThing]

/- An exit that is passed leads to a room of the world. -/
theorem currentRoom_mem_of_passExit
    {told : String}
    (hOk : scene.passExit command = .ok (after, told)) :
    after.session.currentRoom ∈
      Catalog.ids after.world.rooms := by
  simp only [passExit, bind_eq_ok_iff,
    pure_eq_ok_iff] at hOk
  rcases hOk with
    ⟨noun, -, direction, -, exit, hExit, ⟨opened, word⟩,
      hOpened, hReturn⟩
  cases hReturn
  simp only [usableExit, demand_bind_eq_ok_iff,
    check_bind_eq_ok_iff, pure_eq_ok_iff] at hExit
  rcases hExit with ⟨room, -, found, -, -, hKnown, rfl⟩
  rw [enterRoom_currentRoom, ids_enterRoom_rooms,
    rooms_of_openDoor hOpened,
    ← Catalog.has_eq_true_iff_mem_ids]
  exact hKnown

theorem eq_of_go_eq_error
    (hError : scene.go command = (after, .error refusal)) :
    after = scene := by
  rcases carryOut_eq_error_iff.mp hError with
    ⟨-, hSame⟩ | ⟨told, hPass, hReport⟩
  · exact hSame
  · rcases bind_eq_error_iff.mp hReport with
      hText | ⟨text, -, hReturn⟩
    · exact absurd hText
        (describeRoom_ne_error (currentRoom_mem_of_passExit hPass))
    · cases hReturn

------------------------------------------------------------
-- Switching
------------------------------------------------------------

/- A switch is part of a thing, so rooms stay as they are. -/
theorem rooms_of_flipSwitch
    {on : Bool}
    {thing : Thing}
    (hOk : scene.flipSwitch command on = .ok (after, thing)) :
    after.session = scene.session ∧
      after.world.rooms = scene.world.rooms := by
  simp only [flipSwitch, bind_eq_ok_iff,
    pure_eq_ok_iff] at hOk
  rcases hOk with ⟨found, -, -, -, -, -, hReturn⟩
  cases hReturn
  exact ⟨rfl, by simp [updateThing]⟩

/- Nowhere there is no dark. -/
theorem isLit_of_unknown_room
    (hUnknown :
      scene.session.currentRoom ∉
        Catalog.ids scene.world.rooms) :
    scene.isLit = true := by
  have hNone : scene.room? = none := by
    rw [← Catalog.has_eq_false_iff] at hUnknown
    exact (Catalog.find?_eq_none_iff _ _).mpr hUnknown
  simp [isLit, hNone]

/- Where there is no room, there is no new light either. -/
theorem eq_of_switch_eq_error
    {on : Bool}
    (hError :
      scene.switch command on = (after, .error refusal)) :
    after = scene := by
  rcases carryOut_eq_error_iff.mp hError with
    ⟨-, hSame⟩ | ⟨thing, hFlip, hReport⟩
  · exact hSame
  · rcases rooms_of_flipSwitch hFlip with ⟨hSession, hRooms⟩
    exfalso
    by_cases hLight : scene.isLit = after.isLit
    · simp [hLight, bind, Except.bind, pure,
        Except.pure] at hReport
    · have hRoom :
          after.session.currentRoom ∈
            Catalog.ids after.world.rooms := by
        by_contra hUnknown
        have hAfter := isLit_of_unknown_room hUnknown
        rw [hSession, hRooms] at hUnknown
        have hBefore := isLit_of_unknown_room hUnknown
        exact hLight (hBefore.trans hAfter.symm)
      simp only [beq_iff_eq, hLight, if_false] at hReport
      rcases bind_eq_error_iff.mp hReport with
        hText | ⟨text, -, hReturn⟩
      · exact describeRoom_ne_error hRoom hText
      · cases hReturn

------------------------------------------------------------
-- Sleeping And Waking
------------------------------------------------------------

theorem reportRoom_eq_error_iff
    {told : String} :
    scene.reportRoom told = .error refusal ↔
      scene.describeRoom = .error refusal := by
  unfold reportRoom
  rw [bind_eq_error_iff]
  constructor
  · rintro (hText | ⟨text, -, hReturn⟩)
    · exact hText
    · cases hReturn
  · exact Or.inl

theorem eq_of_sleep_eq_error
    (hError : scene.sleep = (after, .error refusal)) :
    after = scene := by
  rcases carryOut_eq_error_iff.mp hError with
    ⟨-, hSame⟩ | ⟨told, hAsleep, hReport⟩
  · exact hSame
  · simp only [fallAsleep, bind_eq_ok_iff,
      pure_eq_ok_iff] at hAsleep
    rcases hAsleep with ⟨rule, hRule, hReturn⟩
    cases hReturn
    simp only [sleepRule, demand_bind_eq_ok_iff,
      check_bind_eq_ok_iff, pure_eq_ok_iff] at hRule
    rcases hRule with ⟨found, -, -, -, hKnown, rfl⟩
    have hRoom :=
      (Catalog.has_eq_true_iff_mem_ids _ _).mp hKnown
    refine absurd (reportRoom_eq_error_iff.mp hReport)
      (describeRoom_ne_error ?_)
    rw [enterRoom_currentRoom, ids_enterRoom_rooms]
    exact hRoom

/-
  The player dreams by a rule whose waking room the world
  does not have.
-/
def IsStranded (scene : Scene) : Prop :=
  scene.session.playerState = .dreaming ∧
    ∃ rule, scene.world.rules.dream = some rule ∧
      rule.wakingRoom ∉ Catalog.ids scene.world.rooms

/-
  A refused waking changes nothing, unless the player is
  stranded. Then the player has woken all the same.
-/
theorem wake_eq_error
    (hError : scene.wake = (after, .error refusal)) :
    after = scene ∧ ¬ scene.IsStranded ∨
      after.session.playerState = .normal ∧
        scene.IsStranded := by
  rcases carryOut_eq_error_iff.mp hError with
    ⟨hRefused, hSame⟩ | ⟨told, hAwake, hReport⟩
  · refine Or.inl ⟨hSame, ?_⟩
    rintro ⟨hDreaming, rule, hRule, -⟩
    simp [wakeUp, wakeRule, check, demand, hDreaming, hRule,
      bind, Except.bind, pure, Except.pure] at hRefused
  · rcases bind_eq_ok_iff.mp hAwake with
      ⟨rule, hRule, hReturn⟩
    cases hReturn
    rcases check_bind_eq_ok_iff.mp hRule with
      ⟨hDreaming, hDemand⟩
    rw [demand_eq_ok_iff] at hDemand
    have hUnknown :
        rule.wakingRoom ∉ Catalog.ids scene.world.rooms := by
      intro hKnown
      refine absurd (reportRoom_eq_error_iff.mp hReport)
        (describeRoom_ne_error ?_)
      rw [enterRoom_currentRoom, ids_enterRoom_rooms]
      exact hKnown
    exact Or.inr
      ⟨by rw [enterRoom_playerState]; rfl,
        by simpa using hDreaming, rule, hDemand, hUnknown⟩

------------------------------------------------------------
-- All Verbs
------------------------------------------------------------

/-
  A refused verb leaves the scene as it is, and only waking
  with nowhere to wake does not.
-/
theorem handle_eq_error
    {verb : Verb}
    (hError :
      scene.handle verb command = (after, .error refusal)) :
    after = scene ∧ ¬ (verb = .wake ∧ scene.IsStranded) ∨
      after.session.playerState = .normal ∧
        verb = .wake ∧ scene.IsStranded := by
  by_cases hWake : verb = .wake
  · subst hWake
    simpa using wake_eq_error hError
  · refine Or.inl ⟨?_, fun hStranded => hWake hStranded.1⟩
    cases verb with
    | go => exact eq_of_go_eq_error hError
    | sleep => exact eq_of_sleep_eq_error hError
    | switchOn => exact eq_of_switch_eq_error hError
    | switchOff => exact eq_of_switch_eq_error hError
    | wake => exact absurd rfl hWake
    | inventory => cases hError
    | wait => cases hError
    | help => cases hError
    | _ => exact eq_of_settle_eq_error hError

/-
  A command fails only by a refusal. It solves nothing, and
  it leaves the scene as it is unless it wakes the player
  with nowhere to wake.
-/
theorem perform_failure
    (scene : Scene)
    (limit : UInt64)
    (command : Command)
    (hFailed :
      (scene.perform limit command).outcome.success =
        false) :
    (scene.perform limit command).outcome.solvedPuzzle =
        none ∧
      ((scene.perform limit command).scene = scene ∧
          ¬ (Verb.ofName? command.verb = some .wake ∧
            scene.IsStranded) ∨
        (scene.perform limit
            command).scene.session.playerState = .normal ∧
          Verb.ofName? command.verb = some .wake ∧
            scene.IsStranded) := by
  unfold perform at hFailed ⊢
  cases hVerb : Verb.ofName? command.verb with
  | none => exact ⟨rfl, Or.inl ⟨rfl, by simp⟩⟩
  | some verb =>
      simp only [hVerb] at hFailed ⊢
      split
      · rename_i hDead
        refine ⟨rfl, Or.inl ⟨rfl, ?_⟩⟩
        rintro ⟨-, hDreaming, -⟩
        simp [hDreaming] at hDead
      · rename_i hAlive
        rw [if_neg hAlive] at hFailed
        cases hHandle : scene.handle verb command with
        | mk after result =>
            cases result with
            | error refusal =>
                refine ⟨rfl, ?_⟩
                simpa [Turn.refused] using
                  handle_eq_error hHandle
            | ok reply => simp [hHandle, complete] at hFailed

end Scene

end TextAdventure
