import TextAdventure.Proofs.Game.Keeping

/-
  What a restore does not take over from a save.

  A saved thing comes back in the state it was saved in, but
  for two things, and of both there is a warning: a refused
  placement leaves it nowhere, and what is worn but not
  carried is taken off.

  Main declarations:
    * `World.capture_restoreEach`
    * `World.capture_restoreThings`
    * `Scene.mem_warnings_restore_iff`
    * `Scene.capture_restored`
    * `Scene.capture_restored_eq_iff`
-/

namespace TextAdventure

namespace World

variable {world : World}
variable {id other : String}
variable {state : ThingState}
variable {thing : Thing}

------------------------------------------------------------
-- One Thing
------------------------------------------------------------

/- A warning says that the placement of a thing is refused. -/
def TurnsDown (warnings : List Warning) (id : String) : Prop :=
  .savedPlacementRefused id ∈ warnings

instance (warnings : List Warning) (id : String) :
    Decidable (TurnsDown warnings id) :=
  inferInstanceAs (Decidable (_ ∈ _))

/- A thing is put where it was saved, or stays with a warning. -/
theorem restoreThing_cases
    (world : World)
    (id : String)
    (state : ThingState) :
    (∃ moved old,
        world.relocate id state.placement = .ok (moved, old) ∧
          world.restoreThing id state =
            .silent (moved.updateThing id state.applyFlags)) ∨
      ∃ fault,
        world.relocate id state.placement = .error fault ∧
          world.restoreThing id state =
            ⟨world.updateThing id state.applyFlags,
              [.savedPlacementRefused id]⟩ := by
  unfold restoreThing Logged.map
  cases hMove : world.relocate id state.placement with
  | ok moved => exact Or.inl ⟨moved.1, moved.2, rfl, rfl⟩
  | error fault => exact Or.inr ⟨fault, rfl, rfl⟩

theorem thing?_applyFlags_of_ne
    (world : World)
    (hNe : other ≠ id)
    (state : ThingState) :
    (world.updateThing id state.applyFlags).thing? other =
      world.thing? other := by
  have hId :
      ∀ thing : Thing,
        (state.applyFlags thing).id = thing.id :=
    fun _ => rfl
  exact thing?_updateThing_of_ne world hId hNe

theorem thing?_restoreThing_of_ne
    (world : World)
    (hNe : other ≠ id)
    (state : ThingState) :
    (world.restoreThing id state).value.thing? other =
      world.thing? other := by
  rcases restoreThing_cases world id state with
    ⟨moved, old, hMove, hRestore⟩ | ⟨fault, -, hRestore⟩
  · rcases relocate_eq_ok_iff.mp hMove with
      ⟨found, -, -, -, rfl⟩
    rw [hRestore]
    exact thing?_restored_of_ne hNe _ _ state
  · rw [hRestore]
    exact thing?_applyFlags_of_ne world hNe state

/- The only warning is about the thing itself. -/
theorem eq_of_turnsDown_restoreThing
    (hTurnsDown :
      TurnsDown (world.restoreThing id state).warnings other) :
    other = id := by
  rcases restoreThing_cases world id state with
    ⟨moved, old, -, hRestore⟩ | ⟨fault, -, hRestore⟩
  · simp [TurnsDown, hRestore, Logged.silent] at hTurnsDown
  · simpa [TurnsDown, hRestore] using hTurnsDown

/- A state whose placement is another's if it is refused. -/
def settled
    (warnings : List Warning)
    (id : String)
    (place : Placement)
    (state : ThingState) : ThingState :=
  { state with
      placement :=
        if TurnsDown warnings id then place else state.placement }

/- A thing is put back as saved, or left where it is. -/
theorem capture_restoreThing
    (hThing : world.thing? id = some thing)
    (state : ThingState) :
    ((world.restoreThing id state).value.thing? id).map
        ThingState.capture =
      some
        (settled (world.restoreThing id state).warnings id
          thing.placement state) := by
  have hId :
      ∀ thing : Thing,
        (state.applyFlags thing).id = thing.id :=
    fun _ => rfl
  rcases restoreThing_cases world id state with
    ⟨moved, old, hMove, hRestore⟩ | ⟨fault, -, hRestore⟩
  · rcases relocate_eq_ok_iff.mp hMove with
      ⟨found, hFound, -, -, rfl⟩
    have hSilent :
        ¬ TurnsDown (world.restoreThing id state).warnings
          id := by
      simp [TurnsDown, hRestore, Logged.silent]
    rw [settled, if_neg hSilent, hRestore]
    dsimp only [Logged.silent]
    rw [thing?_updateThing_self _ hId, thing?_moveTo_self,
      hFound]
    rfl
  · have hRefused :
        TurnsDown (world.restoreThing id state).warnings id := by
      simp [TurnsDown, hRestore]
    rw [settled, if_pos hRefused, hRestore]
    dsimp only
    rw [thing?_updateThing_self _ hId, hThing]
    rfl

/- To be in hand or nowhere is never refused. -/
theorem placement_ne_of_turnsDown_restoreThing
    (hThing : world.thing? id = some thing)
    (hTurnsDown :
      TurnsDown (world.restoreThing id state).warnings id) :
    state.placement ≠ .carried ∧ state.placement ≠ .nowhere := by
  have hFault :
      world.targetFault? id state.placement ≠ none := by
    intro hNone
    rcases restoreThing_cases world id state with
      ⟨moved, old, -, hRestore⟩ | ⟨fault, hError, -⟩
    · simp [TurnsDown, hRestore, Logged.silent] at hTurnsDown
    · simp [relocate, hThing, hNone] at hError
  constructor
  · intro hCarried
    rw [hCarried] at hFault
    exact hFault rfl
  · intro hNowhere
    rw [hNowhere] at hFault
    exact hFault rfl

------------------------------------------------------------
-- All Things
------------------------------------------------------------

variable {entries : List (String × ThingState)}

theorem thing?_restoreEach_of_not_mem
    (hNot : id ∉ entries.map Prod.fst)
    (world : World) :
    (world.restoreEach entries).value.thing? id =
      world.thing? id := by
  induction entries generalizing world with
  | nil => rfl
  | cons entry rest ih =>
      rw [List.map_cons, List.mem_cons, not_or] at hNot
      exact (ih hNot.2 _).trans
        (thing?_restoreThing_of_ne world hNot.1 entry.2)

theorem turnsDown_append_iff
    (first second : List Warning)
    (id : String) :
    TurnsDown (first ++ second) id ↔
      TurnsDown first id ∨ TurnsDown second id :=
  List.mem_append

/- Only what is restored can be refused. -/
theorem mem_of_turnsDown_restoreEach
    (hTurnsDown :
      TurnsDown (world.restoreEach entries).warnings id) :
    id ∈ entries.map Prod.fst := by
  induction entries generalizing world with
  | nil =>
      simp [TurnsDown, restoreEach,
        Logged.silent] at hTurnsDown
  | cons entry rest ih =>
      rcases (turnsDown_append_iff _ _ _).mp hTurnsDown with
        hFirst | hRest
      · exact List.mem_cons.mpr
          (Or.inl (eq_of_turnsDown_restoreThing hFirst))
      · exact List.mem_cons_of_mem _ (ih hRest)

theorem settled_congr
    {left right : List Warning}
    (hSame : TurnsDown left id ↔ TurnsDown right id)
    (place : Placement)
    (state : ThingState) :
    settled left id place state =
      settled right id place state := by
  simp only [settled, hSame]

/-
  Each thing of a list without repetitions is put back as if
  it were the only one, when its turn comes.
-/
theorem capture_restoreEach
    (hNodup : (entries.map Prod.fst).Nodup)
    (hMem : (id, state) ∈ entries)
    (hThing : world.thing? id = some thing) :
    ((world.restoreEach entries).value.thing? id).map
          ThingState.capture =
        some
          (settled (world.restoreEach entries).warnings id
            thing.placement state) ∧
      (TurnsDown (world.restoreEach entries).warnings id →
        state.placement ≠ .carried ∧
          state.placement ≠ .nowhere) := by
  induction entries generalizing world with
  | nil => simp at hMem
  | cons entry rest ih =>
      rcases List.nodup_cons.mp hNodup with ⟨hOnce, hOthers⟩
      rcases List.mem_cons.mp hMem with rfl | hLater
      · have hSame :
            TurnsDown
                (world.restoreEach ((id, state) :: rest)
                  ).warnings id ↔
              TurnsDown (world.restoreThing id state).warnings
                id := by
          refine (turnsDown_append_iff _ _ _).trans
            (or_iff_left ?_)
          intro hRest
          exact hOnce (mem_of_turnsDown_restoreEach hRest)
        rw [settled_congr hSame, hSame]
        refine ⟨?_, placement_ne_of_turnsDown_restoreThing
          hThing⟩
        rw [← capture_restoreThing hThing]
        exact congrArg _
          (thing?_restoreEach_of_not_mem hOnce _)
      · have hNe : id ≠ entry.1 := by
          rintro rfl
          exact hOnce (List.mem_map.mpr ⟨_, hLater, rfl⟩)
        have hFound :
            (world.restoreThing entry.1 entry.2).value.thing?
                id =
              some thing := by
          rw [thing?_restoreThing_of_ne world hNe, hThing]
        have hSame :
            TurnsDown
                (world.restoreEach (entry :: rest)).warnings
                id ↔
              TurnsDown
                ((world.restoreThing entry.1
                  entry.2).value.restoreEach rest).warnings
                id := by
          refine (turnsDown_append_iff _ _ _).trans
            (or_iff_right ?_)
          intro hFirst
          exact hNe (eq_of_turnsDown_restoreThing hFirst)
        rw [settled_congr hSame, hSame]
        exact ih hOthers hLater hFound

------------------------------------------------------------
-- Whole Sessions
------------------------------------------------------------

variable {session : Session}

theorem turnsDown_restoreThings_iff
    (world : World)
    (session : Session)
    (id : String) :
    TurnsDown (world.restoreThings session).warnings id ↔
      TurnsDown
        ((world.liftEach (world.knownStates session)
          ).restoreEach (world.knownStates session)).warnings
        id := by
  refine (turnsDown_append_iff _ _ _).trans (or_iff_right ?_)
  simp [TurnsDown, unknownThingWarnings]

/- What the session does not know stays as it was built. -/
theorem thing?_restoreThings_of_none
    (hNone : session.thingStates.get? id = none)
    (world : World) :
    (world.restoreThings session).value.thing? id =
      world.thing? id := by
  have hNot :
      id ∉ (world.knownStates session).map Prod.fst := by
    intro hMem
    rcases List.mem_map.mp hMem with ⟨entry, hEntry, rfl⟩
    have hState :=
      (Dict.mem_entries_iff _ _).mp
        (List.mem_filter.mp hEntry).1
    rw [hNone] at hState
    cases hState
  exact (thing?_restoreEach_of_not_mem hNot _).trans
    (thing?_liftEach_of_not_mem hNot world)

/- What the session knows is as saved, or nowhere. -/
theorem capture_restoreThings
    (hKnown : Catalog.has id world.things = true)
    (hState : session.thingStates.get? id = some state) :
    ((world.restoreThings session).value.thing? id).map
          ThingState.capture =
        some
          (settled (world.restoreThings session).warnings id
            .nowhere state) ∧
      (TurnsDown (world.restoreThings session).warnings id →
        state.placement ≠ .carried ∧
          state.placement ≠ .nowhere) := by
  have hMem : (id, state) ∈ world.knownStates session := by
    rw [knownStates, List.mem_filter, Dict.mem_entries_iff]
    exact ⟨hState, hKnown⟩
  have hLifted :
      Catalog.has id
          (world.liftEach
            (world.knownStates session)).things =
        true := by
    rw [Catalog.has_congr (ids_liftEach_things world _)]
    exact hKnown
  rcases Catalog.exists_find?_of_has hLifted with
    ⟨lifted, hFound⟩
  have hNowhere :=
    placement_of_thing?_liftEach
      (List.mem_map.mpr ⟨_, hMem, rfl⟩) world hFound
  have hEach :=
    capture_restoreEach
      (Scene.nodup_knownStates world session) hMem hFound
  rw [hNowhere] at hEach
  have hSame := turnsDown_restoreThings_iff world session id
  rw [settled_congr hSame, hSame]
  exact hEach

/- A warning says that something worn is taken off. -/
def TakesOff (warnings : List Warning) (id : String) : Prop :=
  .savedWornUncarried id ∈ warnings

instance (warnings : List Warning) (id : String) :
    Decidable (TakesOff warnings id) :=
  inferInstanceAs (Decidable (_ ∈ _))

theorem takesOff_takeOffStray_iff
    (hIds : (Catalog.ids world.things).Nodup)
    (hThing : world.thing? id = some thing) :
    TakesOff world.takeOffStray.warnings id ↔
      thing.isWorn = true ∧ thing.placement ≠ .carried := by
  have hFound := (Catalog.find?_eq_some_iff hIds).mp hThing
  have hOff (thing : Thing) :
      (thing.isWorn && !thing.placement.isCarried) = true ↔
        thing.isWorn = true ∧ thing.placement ≠ .carried := by
    rw [Bool.and_eq_true, Bool.not_eq_true',
      ← Bool.not_eq_true, Placement.isCarried_eq_true_iff]
  simp only [TakesOff, takeOffStray, List.mem_map,
    List.mem_filter, hOff, Warning.savedWornUncarried.injEq,
    exists_eq_right]
  constructor
  · rintro ⟨other, ⟨hMem, hStray⟩, hSame⟩
    have hEq : other = thing :=
      Catalog.eq_of_idOf_eq hIds hMem hFound.1
        (hSame.trans hFound.2.symm)
    rw [← hEq]
    exact hStray
  · intro hStray
    exact ⟨thing, ⟨hFound.1, hStray⟩, hFound.2⟩

/- What is worn stays on where there is no warning. -/
theorem isWorn_and_isCarried_eq
    (hIds : (Catalog.ids world.things).Nodup)
    (hThing : world.thing? id = some thing) :
    (thing.isWorn && thing.placement.isCarried) =
      if TakesOff world.takeOffStray.warnings id then false
      else thing.isWorn := by
  have hOff := takesOff_takeOffStray_iff hIds hThing
  by_cases hStray : TakesOff world.takeOffStray.warnings id
  · rcases hOff.mp hStray with ⟨-, hAway⟩
    have hNotCarried : thing.placement.isCarried = false := by
      rw [← Bool.not_eq_true,
        Placement.isCarried_eq_true_iff]
      exact hAway
    rw [if_pos hStray, hNotCarried, Bool.and_false]
  · rw [if_neg hStray]
    rw [hOff, not_and, not_not] at hStray
    cases hWears : thing.isWorn with
    | false => rfl
    | true =>
        rw [hStray hWears]
        rfl

end World

namespace Scene

open World (TurnsDown TakesOff settled)

variable {world : World}
variable {session : Session}
variable {restored : Logged Scene}
variable {id : String}
variable {state : ThingState}
variable {thing : Thing}

------------------------------------------------------------
-- Warnings Of A Restore
------------------------------------------------------------

/- Things are passed over as unknown, or their placements. -/
theorem warnings_restoreThings
    (world : World)
    (session : Session) :
    ∀ warning ∈ (world.restoreThings session).warnings,
      ∃ id, warning = .savedUnknownThing id ∨
        warning = .savedPlacementRefused id := by
  have hEach :
      ∀ (entries : List (String × ThingState))
        (world : World),
        ∀ warning ∈ (world.restoreEach entries).warnings,
          ∃ id, warning = .savedPlacementRefused id := by
    intro entries
    induction entries with
    | nil => simp [World.restoreEach, Logged.silent]
    | cons entry rest ih =>
        intro world warning hMem
        rcases List.mem_append.mp hMem with hFirst | hRest
        · rcases World.restoreThing_cases world entry.1
              entry.2 with
            ⟨moved, old, -, hRestore⟩ | ⟨fault, -, hRestore⟩
          · simp [hRestore, Logged.silent] at hFirst
          · exact ⟨entry.1, by simpa [hRestore] using hFirst⟩
        · exact ih _ warning hRest
  intro warning hMem
  rcases List.mem_append.mp hMem with hUnknown | hKnown
  · rcases List.mem_map.mp hUnknown with ⟨entry, -, rfl⟩
    exact ⟨entry.1, Or.inl rfl⟩
  · rcases hEach _ _ warning hKnown with ⟨id, hWarning⟩
    exact ⟨id, Or.inr hWarning⟩

theorem warnings_restorePuzzles
    (world : World)
    (ids : List String) :
    ∀ warning ∈ (world.restorePuzzles ids).warnings,
      ∃ id, warning = .savedUnknownPuzzle id := by
  induction ids generalizing world with
  | nil => simp [World.restorePuzzles, Logged.silent]
  | cons id rest ih =>
      intro warning hMem
      rcases List.mem_append.mp hMem with hFirst | hRest
      · split at hFirst
        · simp [Logged.silent] at hFirst
        · exact ⟨id, by simpa using hFirst⟩
      · exact ih _ warning hRest

theorem warnings_restoreExits
    (world : World)
    (keys : List String) :
    ∀ warning ∈ (world.restoreExits keys).warnings,
      ∃ key, warning = .savedUnknownExit key := by
  induction keys generalizing world with
  | nil => simp [World.restoreExits, Logged.silent]
  | cons key rest ih =>
      intro warning hMem
      rcases List.mem_append.mp hMem with hFirst | hRest
      · split at hFirst
        · simp [Logged.silent] at hFirst
        · exact ⟨key, by simpa using hFirst⟩
      · exact ih _ warning hRest

theorem warnings_takeOffStray
    (world : World) :
    ∀ warning ∈ world.takeOffStray.warnings,
      ∃ id, warning = .savedWornUncarried id := by
  intro warning hMem
  rcases List.mem_map.mp hMem with ⟨id, -, rfl⟩
  exact ⟨id, rfl⟩

theorem warnings_reconcile
    (world : World)
    (session : Session) :
    ∀ warning ∈ (reconcile world session).warnings,
      ∃ id, warning = .inventoryEntryDropped id ∨
        warning = .inventoryEntryAdded id := by
  intro warning hMem
  rcases List.mem_append.mp hMem with hDropped | hAdded
  · rcases List.mem_map.mp hDropped with ⟨id, -, rfl⟩
    exact ⟨id, Or.inl rfl⟩
  · rcases List.mem_map.mp hAdded with ⟨id, -, rfl⟩
    exact ⟨id, Or.inr rfl⟩

/- The warnings of a restore, in the order of its steps. -/
theorem warnings_restore
    (hRestore : restore world session = .ok restored) :
    restored.value.world = world.resumed session ∧
      ∃ puzzles exits lists,
        restored.warnings =
          (world.restoreThings session).warnings ++ puzzles ++
            exits ++
            (world.overlaid session).takeOffStray.warnings ++
            lists ∧
        (∀ warning ∈ puzzles,
          ∃ id, warning = .savedUnknownPuzzle id) ∧
        (∀ warning ∈ exits,
          ∃ key, warning = .savedUnknownExit key) ∧
        ∀ warning ∈ lists,
          ∃ id, warning = .inventoryEntryDropped id ∨
            warning = .inventoryEntryAdded id := by
  unfold restore at hRestore
  split at hRestore
  · cases hRestore
    exact ⟨rfl, _, _, _, rfl, warnings_restorePuzzles _ _,
      warnings_restoreExits _ _, warnings_reconcile _ _⟩
  · cases hRestore

/- About a known thing only two steps of a restore warn. -/
theorem mem_warnings_restore_iff
    (hRestore : restore world session = .ok restored)
    {warning : Warning}
    (hThing :
      ∀ id, warning ≠ .savedUnknownPuzzle id ∧
        warning ≠ .savedUnknownExit id ∧
        warning ≠ .inventoryEntryDropped id ∧
        warning ≠ .inventoryEntryAdded id) :
    warning ∈ restored.warnings ↔
      warning ∈ (world.restoreThings session).warnings ∨
        warning ∈
          (world.overlaid session).takeOffStray.warnings := by
  rcases warnings_restore hRestore with
    ⟨-, puzzles, exits, lists, hAll, hPuzzles, hExits,
      hLists⟩
  rw [hAll]
  simp only [List.mem_append]
  constructor
  · rintro ((((hThings | hIn) | hIn) | hStray) | hIn)
    · exact Or.inl hThings
    · rcases hPuzzles _ hIn with ⟨id, hPuzzle⟩
      exact absurd hPuzzle (hThing id).1
    · rcases hExits _ hIn with ⟨key, hExit⟩
      exact absurd hExit (hThing key).2.1
    · exact Or.inr hStray
    · rcases hLists _ hIn with ⟨id, hDropped | hAdded⟩
      · exact absurd hDropped (hThing id).2.2.1
      · exact absurd hAdded (hThing id).2.2.2
  · rintro (hThings | hStray)
    · exact Or.inl (Or.inl (Or.inl (Or.inl hThings)))
    · exact Or.inl (Or.inr hStray)

theorem turnsDown_restore_iff
    (hRestore : restore world session = .ok restored)
    (id : String) :
    TurnsDown restored.warnings id ↔
      TurnsDown (world.restoreThings session).warnings id := by
  have hSteps :=
    @mem_warnings_restore_iff _ _ _ hRestore
      (.savedPlacementRefused id) (by simp)
  refine hSteps.trans (or_iff_left ?_)
  intro hStray
  rcases warnings_takeOffStray _ _ hStray with
    ⟨other, hOther⟩
  cases hOther

theorem takesOff_restore_iff
    (hRestore : restore world session = .ok restored)
    (id : String) :
    TakesOff restored.warnings id ↔
      TakesOff (world.overlaid session).takeOffStray.warnings
        id := by
  have hSteps :=
    @mem_warnings_restore_iff _ _ _ hRestore
      (.savedWornUncarried id) (by simp)
  refine hSteps.trans (or_iff_right ?_)
  intro hThings
  rcases warnings_restoreThings _ _ _ hThings with
    ⟨other, hOther | hOther⟩ <;> cases hOther

------------------------------------------------------------
-- Restored Things
------------------------------------------------------------

/- A resumed thing is a restored one, worn in hand only. -/
theorem exists_laid_of_thing?_resumed
    (hCoherent : world.IsCoherent)
    (hThing : (world.resumed session).thing? id = some thing) :
    ∃ laid,
      (world.overlaid session).thing? id = some laid ∧
        (world.restoreThings session).value.thing? id =
          some laid ∧
        laid.wornInHand = thing := by
  have hTakeOff :=
    World.thing?_takeOffStray
      (hCoherent.overlaid session).thingIds id
  rw [show (world.overlaid session).takeOffStray.value.thing?
      id = some thing from hThing] at hTakeOff
  rcases Option.map_eq_some_iff.mp hTakeOff.symm with
    ⟨laid, hLaid, hWorn⟩
  refine ⟨laid, hLaid, ?_, hWorn⟩
  rw [← hLaid, World.thing?, World.thing?,
    World.things_overlaid]

/-
  A saved thing is restored as it was saved, but nowhere if
  its placement is refused, and off if it is not carried.
-/
theorem capture_restored
    (hCoherent : world.IsCoherent)
    (hRestore : restore world session = .ok restored)
    (hState : session.thingStates.get? id = some state)
    (hThing : restored.value.world.thing? id = some thing) :
    ThingState.capture thing =
        { state with
            placement :=
              if TurnsDown restored.warnings id then .nowhere
              else state.placement
            isWorn :=
              if TakesOff restored.warnings id then false
              else state.isWorn } ∧
      (TurnsDown restored.warnings id →
        state.placement ≠ .nowhere) ∧
      (TakesOff restored.warnings id →
        state.isWorn = true) := by
  rw [(warnings_restore hRestore).1] at hThing
  rcases exists_laid_of_thing?_resumed hCoherent hThing with
    ⟨laid, hLaid, hSame, rfl⟩
  rcases World.exists_template_of_thing?_resumed hThing with
    ⟨original, hOriginal, -⟩
  rcases World.capture_restoreThings
      (Catalog.has_of_find? hOriginal) hState with
    ⟨hCapture, hPlaced⟩
  rw [hSame, ← World.settled_congr
    (turnsDown_restore_iff hRestore id)] at hCapture
  rw [← turnsDown_restore_iff hRestore] at hPlaced
  have hLaidState := Option.some.inj hCapture
  have hIds := (hCoherent.overlaid session).thingIds
  have hOff := takesOff_restore_iff hRestore id
  have hWorn : laid.isWorn = state.isWorn :=
    congrArg ThingState.isWorn hLaidState
  refine ⟨?_, fun hTurnsDown => (hPlaced hTurnsDown).2, ?_⟩
  · have hStays := World.isWorn_and_isCarried_eq hIds hLaid
    simp only [← hOff, hWorn] at hStays
    have hInHand :
        ThingState.capture laid.wornInHand =
          { ThingState.capture laid with
              isWorn :=
                laid.isWorn && laid.placement.isCarried } :=
      rfl
    rw [hInHand, hLaidState, hWorn, hStays]
    rfl
  · intro hTakesOff
    rw [← hWorn]
    exact ((World.takesOff_takeOffStray_iff hIds hLaid).mp
      (hOff.mp hTakesOff)).1

/- So a saved thing comes back as it was without a warning. -/
theorem capture_restored_eq_iff
    (hCoherent : world.IsCoherent)
    (hRestore : restore world session = .ok restored)
    (hState : session.thingStates.get? id = some state)
    (hThing : restored.value.world.thing? id = some thing) :
    state = ThingState.capture thing ↔
      ¬ TurnsDown restored.warnings id ∧
        ¬ TakesOff restored.warnings id := by
  rcases capture_restored hCoherent hRestore hState hThing with
    ⟨hCapture, hPlaced, hWorn⟩
  rw [hCapture]
  constructor
  · intro hSame
    constructor
    · intro hTurnsDown
      refine hPlaced hTurnsDown ?_
      simpa [hTurnsDown] using
        congrArg ThingState.placement hSame
    · intro hTakesOff
      have hOff : state.isWorn = false := by
        simpa [hTakesOff] using
          congrArg ThingState.isWorn hSame
      rw [hWorn hTakesOff] at hOff
      cases hOff
  · rintro ⟨hTaken, hStays⟩
    simp [hTaken, hStays]

end Scene

end TextAdventure
