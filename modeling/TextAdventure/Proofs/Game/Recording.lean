import TextAdventure.Proofs.Game.Refused

/-
  What is recorded of a thing as lines are played.

  A line either leaves a thing and its entry in the session
  alone, or the entry is the state of the thing afterwards.
  A restore makes no entries, so one that it did not take
  over stays wrong until a line changes the thing.

  Main declarations:
    * `Scene.Edits.marks`
    * `Scene.RecordsSince`
    * `Game.recordsSince_execute`
    * `Game.recordsSince_executeAll`
    * `Game.entry_is_stale_iff`
-/

namespace TextAdventure

------------------------------------------------------------
-- Marked Edits
------------------------------------------------------------

namespace World.Marks

variable {before middle after : World}

theorem refl (world : World) : Marks world world :=
  .of_eq rfl rfl

theorem trans
    (hFirst : Marks before middle)
    (hSecond : Marks middle after) :
    Marks before after where
  thingIds := hSecond.thingIds.trans hFirst.thingIds
  known := by
    intro id hMem
    rcases hSecond.known id hMem with hOld | hKnown
    · exact hFirst.known id hOld
    · rw [hFirst.thingIds] at hKnown
      exact Or.inr hKnown
  kept := by
    intro id hNew
    rcases hSecond.kept id hNew with ⟨hOld, hSame⟩
    rcases hFirst.kept id hOld with ⟨hOlder, hSameBefore⟩
    exact ⟨hOlder, hSame.trans hSameBefore⟩

end World.Marks

namespace Scene

variable {may : Value → Prop}
variable {before after : Scene}

/- An edit marks what it changes, and records nothing. -/
theorem Edit.marks
    (hEdit : Edit may before after) :
    before.world.Marks after.world ∧
      after.session.thingStates =
        before.session.thingStates := by
  have hStates
      (hMemory :
        after.session.memory = before.session.memory) :
      after.session.thingStates =
        before.session.thingStates :=
    congrArg (·.2.2.2.2) hMemory
  have hWorn
      (worn : Bool)
      (thing : Thing) :
      { thing with isWorn := worn }.id = thing.id :=
    rfl
  cases hEdit with
  | place id target hPlace =>
      refine ⟨?_, hStates (memory_of_place hPlace)⟩
      rcases relocate_of_place hPlace with ⟨old, hRelocate⟩
      rcases World.relocate_eq_ok_iff.mp hRelocate with
        ⟨thing, hThing, -, -, hMoved⟩
      rw [hMoved]
      exact World.moveTo_marks
        ((Catalog.has_eq_true_iff_mem_ids _ _).mp
          (Catalog.has_of_find? hThing)) _ _
  | putOn id hCarried =>
      refine ⟨?_, hStates (memory_setWorn before id true)⟩
      rw [setWorn_world]
      exact World.updateThing_marks _ id (hWorn true)
  | takeOff id =>
      refine ⟨?_, hStates (memory_setWorn before id false)⟩
      rw [setWorn_world]
      exact World.updateThing_marks _ id (hWorn false)
  | write id field? value hMay =>
      exact ⟨World.updateThing_marks _ id (by simp), rfl⟩
  | unlock exit hUnblock =>
      exact ⟨World.unblockExit_marks hUnblock,
        congrArg (·.2.2.2.2)
          (before.session.recordOpened_memory exit)⟩
  | enter room =>
      exact ⟨.of_eq rfl rfl,
        congrArg (·.2.2.2.2) (memory_enterRoom before room)⟩
  | flag flag value hMay => exact ⟨.refl _, rfl⟩
  | condition state suspended => exact ⟨.refl _, rfl⟩
  | solve puzzle => exact ⟨.of_eq rfl rfl, rfl⟩

theorem Edits.marks
    (hEdits : Edits may before after) :
    before.world.Marks after.world ∧
      after.session.thingStates =
        before.session.thingStates := by
  induction hEdits with
  | refl => exact ⟨.refl _, rfl⟩
  | tail _ hLast ih =>
      exact ⟨ih.1.trans hLast.marks.1,
        hLast.marks.2.trans ih.2⟩

------------------------------------------------------------
-- Entries
------------------------------------------------------------

/-
  Since an earlier scene nothing has come of a thing and its
  entry, or else the entry is the state that the thing is in.
-/
def RecordsSince
    (earlier later : Scene)
    (id : String) : Prop :=
  later.world.thing? id = earlier.world.thing? id ∧
      later.session.thingStates.get? id =
        earlier.session.thingStates.get? id ∨
    ∃ thing, later.world.thing? id = some thing ∧
      later.session.thingStates.get? id =
        some (ThingState.capture thing)

namespace RecordsSince

variable {earlier middle later : Scene}
variable {id : String}

theorem refl (scene : Scene) (id : String) :
    RecordsSince scene scene id :=
  Or.inl ⟨rfl, rfl⟩

theorem trans
    (hFirst : RecordsSince earlier middle id)
    (hSecond : RecordsSince middle later id) :
    RecordsSince earlier later id := by
  rcases hSecond with ⟨hThing, hEntry⟩ | hRecorded
  · unfold RecordsSince
    rw [hThing, hEntry]
    exact hFirst
  · exact Or.inr hRecorded

end RecordsSince

end Scene

namespace Game

open Scene (RecordsSince)
open World (TurnsDown TakesOff)

theorem thing?_recordChanges (scene : Scene) (id : String) :
    (recordChanges scene).world.thing? id =
      scene.world.thing? id := by
  rw [recordChanges_eq]
  rfl

theorem entry_recordChanges (scene : Scene) (id : String) :
    (recordChanges scene).session.thingStates.get? id =
      if id ∈ scene.world.changed then
        ((scene.world.thing? id).map ThingState.capture).or
          (scene.session.thingStates.get? id)
      else
        scene.session.thingStates.get? id := by
  rw [recordChanges_eq]
  exact get?_foldl_recordedState _ _ _ id

/- Changes that are marked are recorded. -/
theorem recordsSince_recordChanges
    {before after : Scene}
    (hNone : before.world.changed = [])
    (hMarks : before.world.Marks after.world)
    (hStates :
      after.session.thingStates = before.session.thingStates)
    (id : String) :
    RecordsSince before (recordChanges after) id := by
  unfold RecordsSince
  rw [thing?_recordChanges, entry_recordChanges, hStates]
  by_cases hChanged : id ∈ after.world.changed
  · have hHas : Catalog.has id after.world.things = true := by
      rw [Catalog.has_eq_true_iff_mem_ids, hMarks.thingIds]
      rcases hMarks.known id hChanged with hOld | hKnown
      · rw [hNone] at hOld
        cases hOld
      · exact hKnown
    rcases Catalog.exists_find?_of_has hHas with
      ⟨thing, hFind⟩
    have hThing : after.world.thing? id = some thing := hFind
    refine Or.inr ⟨thing, hThing, ?_⟩
    rw [if_pos hChanged, hThing]
    rfl
  · rw [if_neg hChanged]
    exact Or.inl ⟨(hMarks.kept id hChanged).2, rfl⟩

/- What a line changes is recorded at its end. -/
theorem recordsSince_execute
    {game : Game}
    (hNone : game.world.changed = [])
    (line id : String) :
    RecordsSince game.scene
      (game.execute line).value.1.scene id := by
  rcases (turn_edits (World.grants_any game.world)
      line).marks with ⟨hMarks, hStates⟩
  have hNext : (nextTurn game.scene).world.changed = [] :=
    hNone
  rw [scene_execute]
  exact recordsSince_recordChanges hNext hMarks hStates id

/- And so it is as lines follow each other. -/
theorem recordsSince_executeAll
    {first : Game}
    (hNone : first.world.changed = [])
    (lines : List String)
    (id : String) :
    RecordsSince first.scene
      (first.executeAll lines).value.1.scene id := by
  have hAll :=
    executeAll_keeps
      (fun game =>
        game.world.changed = [] ∧
          RecordsSince first.scene game.scene id)
      (fun game line hGame =>
        ⟨changed_execute game line,
          hGame.2.trans
            (recordsSince_execute hGame.1 line id)⟩)
      ⟨hNone, .refl first.scene id⟩ lines
  exact hAll.2

------------------------------------------------------------
-- Resumed Games
------------------------------------------------------------

/-
  After a game is resumed and lines are played, an entry for
  a thing of the world is its state, but for one case: the
  restore warned of the thing, and neither the entry nor the
  thing has been changed since.
-/
theorem entry_is_stale_iff
    {settings : Settings}
    {disk : Disk}
    {prior : Session}
    {first : Game}
    (hResume :
      (resume settings disk prior).value = .ok first)
    (lines : List String) :
    ∃ restored,
      Scene.restore
            (World.ofContent (settings.content disk)) prior =
          .ok restored ∧
        first =
          { settings := settings, scene := restored.value } ∧
        ∀ id state thing,
          (first.executeAll lines).value.1.session.thingStates.get?
                id =
              some state →
            (first.executeAll lines).value.1.world.thing? id =
                some thing →
              (state ≠ ThingState.capture thing ↔
                (TurnsDown restored.warnings id ∨
                  TakesOff restored.warnings id) ∧
                prior.thingStates.get? id = some state ∧
                first.world.thing? id = some thing) := by
  rcases resume_eq_ok_iff.mp hResume with
    ⟨hValid, restored, hRestore, rfl⟩
  have hCoherent := World.ofContent_isCoherent hValid
  have hScene := (Scene.restore_eq_ok_iff.mp ⟨_, hRestore⟩).2
  have hNone : restored.value.world.changed = [] := by
    rw [hScene]
    rfl
  have hEntries :
      restored.value.session.thingStates =
        prior.thingStates := by
    rw [hScene]
    rfl
  refine ⟨restored, hRestore, rfl, ?_⟩
  intro id state thing hState hThing
  have hWarned
      (hPrior : prior.thingStates.get? id = some state)
      (hFirst : restored.value.world.thing? id = some thing) :
      state ≠ ThingState.capture thing ↔
        TurnsDown restored.warnings id ∨
          TakesOff restored.warnings id := by
    rw [Ne, Scene.capture_restored_eq_iff hCoherent hRestore
      hPrior hFirst, ← not_or, not_not]
  constructor
  · intro hStale
    have hSince :=
      @recordsSince_executeAll
        { settings := settings, scene := restored.value }
        hNone lines id
    rcases hSince with
      ⟨hSame, hEntry⟩ | ⟨now, hNow, hRecorded⟩
    · rw [hEntries] at hEntry
      have hPrior := hEntry.symm.trans hState
      have hFirst := hSame.symm.trans hThing
      exact ⟨(hWarned hPrior hFirst).mp hStale, hPrior,
        hFirst⟩
    · cases hNow.symm.trans hThing
      exact absurd (Option.some.inj
        (hState.symm.trans hRecorded)) hStale
  · rintro ⟨hWarnings, hPrior, hFirst⟩
    exact (hWarned hPrior hFirst).mpr hWarnings

/- A save in which the lighter lies in no room of the story. -/
def lostLighter : Session where
  id := default
  currentRoom := "forest"
  thingStates :=
    Dict.ofList
      [("lighter",
        { ThingState.capture {} with
            placement := .room "attic" })]

/- A line later the save still has it there, not the world. -/
theorem entry_of_lostLighter_is_stale :
    ∃ first restored,
      (resume {} (fun _ => .nothing) lostLighter).value =
          .ok first ∧
        Scene.restore (World.ofContent .embedded)
            lostLighter = .ok restored ∧
        (TurnsDown restored.warnings "lighter" ∨
          TakesOff restored.warnings "lighter") ∧
        ∃ state thing,
          (first.executeAll
              ["wait"]).value.1.session.thingStates.get?
                "lighter" = some state ∧
            (first.executeAll ["wait"]).value.1.world.thing?
              "lighter" = some thing ∧
            state ≠ ThingState.capture thing := by
  let first : Game :=
    { settings := {}
      scene :=
        Scene.resumed (World.ofContent .embedded)
          lostLighter }
  have hValid : Content.embedded.IsValid := by rfl
  have hResume :
      (resume {} (fun _ => .nothing) lostLighter).value =
        .ok first :=
    resume_value hValid (by decide)
  have hEntry :
      ((first.executeAll
          ["wait"]).value.1.session.thingStates.get?
            "lighter").map ThingState.placement =
        some (.room "attic") := by
    decide +kernel
  have hNowhere :
      ((first.executeAll ["wait"]).value.1.world.thing?
          "lighter").map Thing.placement = some .nowhere := by
    decide +kernel
  rcases Option.map_eq_some_iff.mp hEntry with
    ⟨state, hState, hAttic⟩
  rcases Option.map_eq_some_iff.mp hNowhere with
    ⟨thing, hThing, hPlacement⟩
  have hStale : state ≠ ThingState.capture thing := by
    intro hSame
    rw [hSame, ThingState.capture, hPlacement] at hAttic
    cases hAttic
  rcases entry_is_stale_iff hResume ["wait"] with
    ⟨restored, hRestore, -, hEntries⟩
  have hWarned :=
    (hEntries "lighter" state thing hState hThing).mp hStale
  exact ⟨first, restored, hResume, hRestore, hWarned.1, state,
    thing, hState, hThing, hStale⟩

end Game

end TextAdventure
