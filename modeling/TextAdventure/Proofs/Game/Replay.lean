import TextAdventure.Proofs.Game.Restoring
import TextAdventure.Proofs.Scene.Tracking

/-
  A session that tracks its world, laid over the world it
  began in.

  Things are put back one by one. What is back is as in the
  goal and what is not is nowhere, so that everything that
  lies in something does so in the goal as well. The goal has
  no cycle, and so no placement is refused on the way.

  Main declarations:
    * `World.Restoring`
    * `World.Restoring.restoreThing`
    * `World.restoring_liftEach`
    * `Scene.Tracks.resumed`
-/

namespace TextAdventure

open Relation (ReflTransGen TransGen)

namespace World

variable {base goal world : World}

------------------------------------------------------------
-- Lifted Things
------------------------------------------------------------

theorem thing?_liftOut_of_ne
    (world : World)
    {id other : String}
    (hNe : other ≠ id) :
    (world.liftOut id).thing? other = world.thing? other := by
  unfold liftOut
  split
  · rename_i lifted old hOk
    rcases relocate_eq_ok_iff.mp hOk with
      ⟨thing, -, -, -, rfl⟩
    exact thing?_moveTo_of_ne hNe thing.placement .nowhere
  · rfl

/- A lifted thing is nowhere. -/
theorem placement_of_thing?_liftOut
    {id : String}
    {thing : Thing}
    (hThing : (world.liftOut id).thing? id = some thing) :
    thing.placement = .nowhere := by
  unfold liftOut at hThing
  split at hThing
  · rename_i lifted old hOk
    rcases relocate_eq_ok_iff.mp hOk with
      ⟨before, hBefore, -, -, rfl⟩
    rw [thing?_moveTo_self, hBefore] at hThing
    cases hThing
    rfl
  · rename_i fault hError
    simp [relocate, hThing, targetFault?] at hError

theorem ids_liftOut_things (world : World) (id : String) :
    Catalog.ids (world.liftOut id).things =
      Catalog.ids world.things := by
  unfold liftOut
  split
  · rename_i lifted old hOk
    rcases relocate_eq_ok_iff.mp hOk with
      ⟨thing, -, -, -, rfl⟩
    exact ids_moveTo_things id thing.placement .nowhere
  · rfl

/- What is not lifted stays as it is. -/
theorem thing?_liftEach_of_not_mem
    {entries : List (String × ThingState)}
    {id : String}
    (hNot : id ∉ entries.map Prod.fst)
    (world : World) :
    (world.liftEach entries).thing? id = world.thing? id := by
  induction entries generalizing world with
  | nil => rfl
  | cons entry rest ih =>
      rw [List.map_cons, List.mem_cons, not_or] at hNot
      exact (ih hNot.2 _).trans
        (thing?_liftOut_of_ne world hNot.1)

/- What is lifted is nowhere. -/
theorem placement_of_thing?_liftEach
    {entries : List (String × ThingState)}
    {id : String}
    (hMem : id ∈ entries.map Prod.fst)
    (world : World)
    {thing : Thing}
    (hThing :
      (world.liftEach entries).thing? id = some thing) :
    thing.placement = .nowhere := by
  induction entries generalizing world with
  | nil => simp at hMem
  | cons entry rest ih =>
      by_cases hRest : id ∈ rest.map Prod.fst
      · exact ih hRest _ hThing
      · have hFirst : id = entry.1 := by
          rcases List.mem_cons.mp hMem with hSame | hLater
          · exact hSame
          · exact absurd hLater hRest
        have hLifted :
            (world.liftOut id).thing? id = some thing := by
          rw [← thing?_liftEach_of_not_mem hRest, hFirst]
          rw [hFirst] at hThing
          exact hThing
        exact placement_of_thing?_liftOut hLifted

theorem ids_liftEach_things
    (world : World)
    (entries : List (String × ThingState)) :
    Catalog.ids (world.liftEach entries).things =
      Catalog.ids world.things := by
  induction entries generalizing world with
  | nil => rfl
  | cons entry rest ih =>
      exact (ih _).trans (ids_liftOut_things world entry.1)

/-
  What moving and changing things leaves alone: the rooms but
  for their listings, and the puzzles.
-/
def backdrop (world : World) : List Room × List Puzzle :=
  (world.rooms.map Room.bare, world.puzzles)

theorem backdrop_relocate
    {moved : World}
    {id : String}
    {target old : Placement}
    (hOk : world.relocate id target = .ok (moved, old)) :
    moved.backdrop = world.backdrop := by
  rcases relocate_eq_ok_iff.mp hOk with ⟨thing, -, -, -, rfl⟩
  unfold backdrop
  rw [bare_rooms_moveTo, moveTo_puzzles]

theorem backdrop_liftOut (world : World) (id : String) :
    (world.liftOut id).backdrop = world.backdrop := by
  unfold liftOut
  split
  · rename_i lifted old hOk
    exact backdrop_relocate hOk
  · rfl

theorem backdrop_liftEach
    (world : World)
    (entries : List (String × ThingState)) :
    (world.liftEach entries).backdrop = world.backdrop := by
  induction entries generalizing world with
  | nil => rfl
  | cons entry rest ih =>
      exact (ih _).trans (backdrop_liftOut world entry.1)

theorem backdrop_restoreThing
    (world : World)
    (id : String)
    (state : ThingState) :
    (world.restoreThing id state).value.backdrop =
      world.backdrop := by
  have hChange :
      ∀ moved : World,
        (moved.updateThing id state.applyFlags).backdrop =
          moved.backdrop := by
    intro moved
    simp [backdrop]
  unfold restoreThing Logged.map
  simp only [hChange]
  split
  · rename_i moved old hOk
    exact backdrop_relocate hOk
  · rfl

theorem backdrop_restoreThings
    (world : World)
    (session : Session) :
    (world.restoreThings session).value.backdrop =
      world.backdrop := by
  have hEach :
      ∀ (entries : List (String × ThingState))
        (world : World),
        (world.restoreEach entries).value.backdrop =
          world.backdrop := by
    intro entries
    induction entries with
    | nil => exact fun _ => rfl
    | cons entry rest ih =>
        intro world
        exact (ih _).trans
          (backdrop_restoreThing world entry.1 entry.2)
  exact (hEach _ _).trans (backdrop_liftEach world _)

theorem ids_rooms_eq_backdrop (world : World) :
    Catalog.ids world.rooms =
      world.backdrop.1.map Room.id := by
  simp [Catalog.ids, backdrop, Room.bare, Function.comp_def]

------------------------------------------------------------
-- Restored Things
------------------------------------------------------------

/-
  A world on the way to a goal, while some things wait to be
  put back. The others are as in the goal, and what waits is
  nowhere.
-/
structure Restoring
    (goal : World)
    (waiting : List String)
    (world : World) : Prop where
  coherent : world.IsCoherent
  roomIds : Catalog.ids world.rooms = Catalog.ids goal.rooms
  thingIds :
    Catalog.ids world.things = Catalog.ids goal.things
  restored :
    ∀ id, id ∉ waiting →
      (world.thing? id).map ThingState.capture =
        (goal.thing? id).map ThingState.capture
  lifted :
    ∀ id ∈ waiting, ∀ thing,
      world.thing? id = some thing →
        thing.placement = .nowhere

variable {waiting : List String}
variable {id : String}
variable {state : ThingState}

/- Things of one captured state are at one place. -/
theorem exists_placement_of_capture_eq
    {left right : Option Thing}
    (hSame :
      left.map ThingState.capture =
        right.map ThingState.capture)
    {thing : Thing}
    (hLeft : left = some thing) :
    ∃ other, right = some other ∧
      other.placement = thing.placement := by
  rw [hLeft] at hSame
  rcases Option.map_eq_some_iff.mp hSame.symm with
    ⟨other, hOther, hCapture⟩
  exact ⟨other, hOther,
    congrArg ThingState.placement hCapture⟩

/- What lies in something lies there in the goal as well. -/
theorem Restoring.inside
    (hRestoring : Restoring goal waiting world)
    {inner outer : String}
    (hInside : Inside world.things inner outer) :
    Inside goal.things inner outer := by
  rcases inside_iff.mp hInside with
    ⟨thing, hThing, hPlacement⟩
  have hBack : inner ∉ waiting := by
    intro hWaits
    have hNowhere :=
      hRestoring.lifted inner hWaits thing hThing
    rw [hPlacement] at hNowhere
    cases hNowhere
  rcases exists_placement_of_capture_eq
      (hRestoring.restored inner hBack) hThing with
    ⟨other, hOther, hSame⟩
  exact inside_iff.mpr
    ⟨other, hOther, hSame.trans hPlacement⟩

/- No placement of the goal is refused on the way to it. -/
theorem Restoring.exists_relocate
    (hRestoring : Restoring goal waiting world)
    (hGoal : goal.IsCoherent)
    {thing : Thing}
    (hThing : goal.thing? id = some thing) :
    ∃ moved old,
      world.relocate id thing.placement = .ok (moved, old) := by
  have hKnown : id ∈ Catalog.ids world.things := by
    rw [hRestoring.thingIds,
      ← Catalog.has_eq_true_iff_mem_ids]
    exact Catalog.has_of_find? hThing
  have hPlaced : goal.Places id thing.placement :=
    (places_iff hGoal.thingIds).mpr ⟨thing, hThing, rfl⟩
  have hResolves : world.Resolves thing.placement :=
    (resolves_congr hRestoring.roomIds hRestoring.thingIds
      thing.placement).mpr (hGoal.resolves id _ hPlaced)
  refine hRestoring.coherent.exists_relocate_iff.mpr
    ⟨hKnown, hResolves, ?_⟩
  intro container hContainer hChain
  have hInside : Inside goal.things id container :=
    inside_iff.mpr ⟨thing, hThing, hContainer⟩
  have hGoalChain :
      ReflTransGen (Inside goal.things) container id :=
    ReflTransGen.mono
      (fun _ _ hLink => hRestoring.inside hLink) _ _ hChain
  exact hGoal.acyclic id
    (TransGen.head' hInside hGoalChain)

/- A placement that is accepted is followed by the flags. -/
theorem restoreThing_value
    {moved : World}
    {old : Placement}
    (hOk :
      world.relocate id state.placement = .ok (moved, old)) :
    (world.restoreThing id state).value =
      moved.updateThing id state.applyFlags := by
  simp [restoreThing, hOk, Logged.map, Logged.silent]

/- Only the thing that is put back is another than before. -/
theorem thing?_restored_of_ne
    {other : String}
    (hNe : other ≠ id)
    (origin target : Placement)
    (state : ThingState) :
    ((world.moveTo id origin target).updateThing id
        state.applyFlags).thing? other =
      world.thing? other := by
  have hId :
      ∀ thing : Thing,
        (state.applyFlags thing).id = thing.id := by
    intro thing
    rfl
  rw [thing?_updateThing_of_ne _ hId hNe,
    thing?_moveTo_of_ne hNe]

/- One more thing is put back as it is in the goal. -/
theorem Restoring.restoreThing
    (hRestoring : Restoring goal (id :: waiting) world)
    (hGoal : goal.IsCoherent)
    (hOnce : id ∉ waiting)
    (hState :
      (goal.thing? id).map ThingState.capture =
        some state) :
    Restoring goal waiting
      (world.restoreThing id state).value := by
  rcases Option.map_eq_some_iff.mp hState with
    ⟨thing, hThing, rfl⟩
  rcases hRestoring.exists_relocate hGoal hThing with
    ⟨moved, old, hOk⟩
  have hCoherent :=
    hRestoring.coherent.restoreThing id
      (ThingState.capture thing)
  rw [restoreThing_value hOk] at hCoherent ⊢
  rcases relocate_eq_ok_iff.mp hOk with
    ⟨before, hBefore, -, -, rfl⟩
  have hId :
      ∀ other : Thing,
        ((ThingState.capture thing).applyFlags other).id =
          other.id := by
    intro other
    rfl
  refine
    { coherent := hCoherent
      roomIds := ?_
      thingIds := ?_
      restored := ?_
      lifted := ?_ }
  · rw [updateThing_rooms,
      ids_moveTo_rooms hRestoring.coherent.roomIds,
      hRestoring.roomIds]
  · rw [ids_updateThing_things _ hId, ids_moveTo_things,
      hRestoring.thingIds]
  · intro other hBack
    by_cases hSame : other = id
    · subst hSame
      rw [thing?_updateThing_self _ hId,
        thing?_moveTo_self, hBefore, hThing]
      rfl
    · rw [thing?_restored_of_ne hSame]
      apply hRestoring.restored
      simp [hSame, hBack]
  · intro other hWaits found hFound
    have hNe : other ≠ id := by
      rintro rfl
      exact hOnce hWaits
    rw [thing?_restored_of_ne hNe] at hFound
    exact hRestoring.lifted other
      (List.mem_cons_of_mem id hWaits) found hFound

theorem Restoring.restoreEach
    {entries : List (String × ThingState)}
    (hRestoring :
      Restoring goal (entries.map Prod.fst) world)
    (hGoal : goal.IsCoherent)
    (hNodup : (entries.map Prod.fst).Nodup)
    (hStates :
      ∀ entry ∈ entries,
        (goal.thing? entry.1).map ThingState.capture =
          some entry.2) :
    Restoring goal [] (world.restoreEach entries).value := by
  induction entries generalizing world with
  | nil => exact hRestoring
  | cons entry rest ih =>
      rcases List.forall_mem_cons.mp hStates with
        ⟨hFirst, hRest⟩
      rcases List.nodup_cons.mp hNodup with ⟨hOnce, hOthers⟩
      exact ih
        (hRestoring.restoreThing hGoal hOnce hFirst)
        hOthers hRest

/- Taking things out of their places readies a world. -/
theorem restoring_liftEach
    {entries : List (String × ThingState)}
    (hCoherent : world.IsCoherent)
    (hRoomIds :
      Catalog.ids world.rooms = Catalog.ids goal.rooms)
    (hThingIds :
      Catalog.ids world.things = Catalog.ids goal.things)
    (hKept :
      ∀ id, id ∉ entries.map Prod.fst →
        (world.thing? id).map ThingState.capture =
          (goal.thing? id).map ThingState.capture) :
    Restoring goal (entries.map Prod.fst)
      (world.liftEach entries) where
  coherent := hCoherent.liftEach entries
  roomIds := by
    rw [ids_rooms_eq_backdrop, backdrop_liftEach,
      ← ids_rooms_eq_backdrop, hRoomIds]
  thingIds := by rw [ids_liftEach_things, hThingIds]
  restored := by
    intro id hNot
    rw [thing?_liftEach_of_not_mem hNot]
    exact hKept id hNot
  lifted := by
    intro id hMem thing hThing
    exact placement_of_thing?_liftEach hMem world hThing

------------------------------------------------------------
-- Puzzles, Exits And Visits
------------------------------------------------------------

theorem puzzles_restorePuzzles
    (hIds : (Catalog.ids world.puzzles).Nodup)
    (ids : List String) :
    (world.restorePuzzles ids).value.puzzles =
      world.puzzles.map (fun puzzle =>
        ids.foldl Puzzle.solvedBy puzzle) := by
  induction ids generalizing world with
  | nil => exact (List.map_id' _).symm
  | cons id rest ih =>
      have hIdsSolved :
          Catalog.ids (world.markSolved id).puzzles =
            Catalog.ids world.puzzles :=
        Catalog.ids_update (by simp) world.puzzles
      have hSolved :
          ((world.markSolved id).restorePuzzles
              rest).value.puzzles =
            world.puzzles.map (fun puzzle =>
              (id :: rest).foldl Puzzle.solvedBy puzzle) := by
        rw [ih (hIdsSolved ▸ hIds),
          puzzles_markSolved hIds, List.map_map]
        rfl
      unfold restorePuzzles Logged.bind
      simp only
      split
      · exact hSolved
      · rename_i hUnknown
        have hSame : world.markSolved id = world := by
          unfold markSolved
          rw [Catalog.update_eq_self (by simpa using hUnknown)]
        rw [hSame] at hSolved
        exact hSolved

theorem restorePuzzles_rooms_things
    (world : World)
    (ids : List String) :
    (world.restorePuzzles ids).value.rooms = world.rooms ∧
      (world.restorePuzzles ids).value.things =
        world.things := by
  induction ids generalizing world with
  | nil => exact ⟨rfl, rfl⟩
  | cons id rest ih =>
      unfold restorePuzzles Logged.bind
      simp only [ih]
      split <;> exact ⟨rfl, rfl⟩

theorem rooms_restoreExits
    (hIds : (Catalog.ids world.rooms).Nodup)
    (keys : List String) :
    (world.restoreExits keys).value.rooms =
      world.rooms.map (fun room =>
        keys.foldl Room.openedBy room) := by
  induction keys generalizing world with
  | nil => exact (List.map_id' _).symm
  | cons key rest ih =>
      unfold restoreExits Logged.bind
      simp only
      split
      · rename_i after blocked hOk
        have hRooms := rooms_unblockExit hIds hOk
        have hAfter : (Catalog.ids after.rooms).Nodup := by
          rw [ids_rooms_of_layout_eq
            (layout_unblockExit world hOk)]
          exact hIds
        refine (ih hAfter).trans ?_
        rw [hRooms, List.map_map]
        rfl
      · rename_i fault hError
        have hRooms := rooms_of_unblockExit_eq_error hIds hError
        refine (ih hIds).trans ?_
        conv_lhs => rw [← hRooms, List.map_map]
        rfl

theorem restoreExits_puzzles_things
    (world : World)
    (keys : List String) :
    (world.restoreExits keys).value.puzzles = world.puzzles ∧
      (world.restoreExits keys).value.things =
        world.things := by
  induction keys generalizing world with
  | nil => exact ⟨rfl, rfl⟩
  | cons key rest ih =>
      unfold restoreExits Logged.bind
      simp only [ih]
      split
      · rename_i after blocked hOk
        rcases (unblockExit_eq_ok_iff world).mp hOk with
          ⟨place, room, exit, -, -, -, -, rfl⟩
        exact ⟨rfl, rfl⟩
      · exact ⟨rfl, rfl⟩

theorem rooms_foldl_visit
    (hIds : (Catalog.ids world.rooms).Nodup)
    (visited : List String) :
    (visited.foldl visit world).rooms =
      world.rooms.map (fun room =>
        visited.foldl Room.visitedBy room) := by
  induction visited generalizing world with
  | nil => exact (List.map_id' _).symm
  | cons id rest ih =>
      have hRooms := rooms_visit hIds id
      have hAfter :
          (Catalog.ids (world.visit id).rooms).Nodup := by
        rw [ids_rooms_of_layout_eq (layout_visit world id)]
        exact hIds
      rw [List.foldl_cons, ih hAfter, hRooms, List.map_map]
      rfl

theorem foldl_visit_puzzles_things
    (world : World)
    (visited : List String) :
    (visited.foldl visit world).puzzles = world.puzzles ∧
      (visited.foldl visit world).things = world.things := by
  induction visited generalizing world with
  | nil => exact ⟨rfl, rfl⟩
  | cons id rest ih => exact ih (world.visit id)

------------------------------------------------------------
-- Overlaid Worlds
------------------------------------------------------------

theorem things_overlaid
    (world : World)
    (session : Session) :
    (world.overlaid session).things =
      (world.restoreThings session).value.things := by
  unfold overlaid
  rw [(foldl_visit_puzzles_things _ _).2,
    (restoreExits_puzzles_things _ _).2,
    (restorePuzzles_rooms_things _ _).2]

theorem puzzles_overlaid
    (hCoherent : world.IsCoherent)
    (session : Session) :
    (world.overlaid session).puzzles =
      world.puzzles.map (fun puzzle =>
        session.solvedPuzzles.foldl Puzzle.solvedBy
          puzzle) := by
  have hBackdrop :
      (world.restoreThings session).value.puzzles =
        world.puzzles :=
    congrArg Prod.snd (backdrop_restoreThings world session)
  have hIds :
      (Catalog.ids
        (world.restoreThings session).value.puzzles).Nodup := by
    rw [hBackdrop]
    exact hCoherent.puzzleIds
  unfold overlaid
  rw [(foldl_visit_puzzles_things _ _).1,
    (restoreExits_puzzles_things _ _).1,
    puzzles_restorePuzzles hIds, hBackdrop]

theorem rooms_overlaid
    (hCoherent : world.IsCoherent)
    (session : Session) :
    (world.overlaid session).rooms.map Room.bare =
      world.rooms.map (fun room =>
        (room.explored session.openedExits
          session.visitedRooms).bare) := by
  have hBackdrop :
      (world.restoreThings session).value.rooms.map
          Room.bare =
        world.rooms.map Room.bare :=
    congrArg Prod.fst (backdrop_restoreThings world session)
  have hIds := (hCoherent.restoreThings session).roomIds
  have hOpened :
      (((world.restoreThings session).value.restorePuzzles
          session.solvedPuzzles).value.restoreExits
            session.openedExits).value.rooms =
        (world.restoreThings session).value.rooms.map
          (fun room =>
            session.openedExits.foldl Room.openedBy room) := by
    rw [rooms_restoreExits,
      (restorePuzzles_rooms_things _ _).1]
    rw [(restorePuzzles_rooms_things _ _).1]
    exact hIds
  have hRooms :
      (world.overlaid session).rooms =
        (world.restoreThings session).value.rooms.map
          (fun room =>
            room.explored session.openedExits
              session.visitedRooms) := by
    unfold overlaid
    rw [rooms_foldl_visit, hOpened, List.map_map]
    · rfl
    · rw [hOpened, Catalog.ids_map (by simp)]
      exact hIds
  have hBare :
      ∀ rooms : List Room,
        (rooms.map (fun room =>
            room.explored session.openedExits
              session.visitedRooms)).map Room.bare =
          (rooms.map Room.bare).map (fun room =>
            room.explored session.openedExits
              session.visitedRooms) := by
    intro rooms
    rw [List.map_map, List.map_map]
    apply List.map_congr_left
    intro room _
    exact room.explored_bare _ _
  rw [hRooms, hBare, hBackdrop, ← hBare, List.map_map]
  rfl

end World

------------------------------------------------------------
-- Tracked Scenes
------------------------------------------------------------

namespace Scene

variable {base : World}
variable {scene : Scene}

theorem Tracks.roomIds
    (hTracks : scene.Tracks base) :
    Catalog.ids scene.world.rooms =
      Catalog.ids base.rooms := by
  rw [World.ids_rooms_eq_backdrop scene.world,
    World.backdrop, hTracks.rooms, List.map_map]
  apply List.map_congr_left
  intro room _
  simp [Room.bare]

/- What is remembered is remembered of known things. -/
theorem Tracks.mem_knownStates_iff
    (hTracks : scene.Tracks base)
    (hRecorded : scene.world.changed = [])
    (entry : String × ThingState) :
    entry ∈ base.knownStates scene.session ↔
      scene.session.thingStates.get? entry.1 =
        some entry.2 := by
  unfold World.knownStates
  rw [List.mem_filter, Dict.mem_entries_iff]
  constructor
  · exact And.left
  · intro hState
    refine ⟨hState, ?_⟩
    have hRemembered :=
      hTracks.states entry.1 (by simp [hRecorded])
    rw [remembered, hState, Option.some_or] at hRemembered
    rcases Option.map_eq_some_iff.mp hRemembered with
      ⟨thing, hThing, -⟩
    rw [Catalog.has_eq_true_iff_mem_ids, ← hTracks.thingIds,
      ← Catalog.has_eq_true_iff_mem_ids]
    exact Catalog.has_of_find? hThing

/- The ids of what is remembered differ. -/
theorem nodup_knownStates
    (base : World)
    (session : Session) :
    ((base.knownStates session).map Prod.fst).Nodup := by
  exact session.thingStates.nodup_keys.sublist
    (List.filter_sublist.map Prod.fst)

/- All things come to be as they are in the tracked world. -/
theorem Tracks.restoring
    (hTracks : scene.Tracks base)
    (hRecorded : scene.world.changed = [])
    (hBase : base.IsCoherent)
    (hCoherent : scene.world.IsCoherent) :
    World.Restoring scene.world []
      (base.restoreThings scene.session).value := by
  have hState :
      ∀ id : String,
        (scene.world.thing? id).map ThingState.capture =
          remembered base scene.session id := by
    intro id
    exact hTracks.states id (by simp [hRecorded])
  have hStates :
      ∀ entry ∈ base.knownStates scene.session,
        (scene.world.thing? entry.1).map
            ThingState.capture =
          some entry.2 := by
    intro entry hMem
    have hKnown :=
      (hTracks.mem_knownStates_iff hRecorded entry).mp hMem
    rw [hState, remembered, hKnown, Option.some_or]
  have hKept :
      ∀ id,
        id ∉ (base.knownStates scene.session).map
            Prod.fst →
          (base.thing? id).map ThingState.capture =
            (scene.world.thing? id).map
              ThingState.capture := by
    intro id hNot
    have hNone :
        scene.session.thingStates.get? id = none := by
      cases hFound : scene.session.thingStates.get? id with
      | none => rfl
      | some state =>
          have hMem :=
            (hTracks.mem_knownStates_iff hRecorded
              (id, state)).mpr hFound
          exact absurd
            (List.mem_map_of_mem (f := Prod.fst) hMem) hNot
    rw [hState, remembered, hNone, Option.none_or]
  exact
    (World.restoring_liftEach hBase hTracks.roomIds.symm
      hTracks.thingIds.symm hKept).restoreEach hCoherent
        (nodup_knownStates base scene.session) hStates

/- The overlaid world has made the progress of the scene. -/
theorem Tracks.overlaid
    (hTracks : scene.Tracks base)
    (hRecorded : scene.world.changed = [])
    (hBase : base.IsCoherent)
    (hCoherent : scene.world.IsCoherent) :
    (base.overlaid scene.session).SameProgress
      scene.world where
  things := by
    have hRestoring :=
      hTracks.restoring hRecorded hBase hCoherent
    rw [World.things_overlaid]
    apply Catalog.map_eq_of_find?
      hRestoring.coherent.thingIds hRestoring.thingIds
    intro id
    have hPair :
        ∀ world : World,
          (Catalog.find? id world.things).map (fun thing =>
              (thing.id, ThingState.capture thing)) =
            ((world.thing? id).map ThingState.capture).map
              (fun state => (id, state)) := by
      intro world
      unfold World.thing?
      cases hFind : Catalog.find? id world.things with
      | none => rfl
      | some thing =>
          have hId : thing.id = id :=
            (Catalog.find?_some hFind).2
          simp [hId]
    rw [hPair, hPair,
      hRestoring.restored id List.not_mem_nil]
  rooms := by
    rw [World.rooms_overlaid hBase, hTracks.rooms]
  puzzles := by
    rw [World.puzzles_overlaid hBase, hTracks.puzzles]

/-
  A session that tracks its world is resumed as it is, in a
  world that has made the same progress.
-/
theorem Tracks.resumed
    (hTracks : scene.Tracks base)
    (hRecorded : scene.world.changed = [])
    (hBase : base.IsCoherent)
    (hConsistent : scene.IsConsistent) :
    (resumed base scene.session).session = scene.session ∧
      (resumed base scene.session).world.SameProgress
        scene.world := by
  have hOverlaid :=
    hTracks.overlaid hRecorded hBase hConsistent.coherent
  have hCoherent := hBase.overlaid scene.session
  have hCarried :
      ∀ id, (base.overlaid scene.session).Wears id →
        (base.overlaid scene.session).Places id .carried := by
    intro id hWears
    rw [hOverlaid.places_iff]
    exact hConsistent.carried id
      ((hOverlaid.wears_iff id).mp hWears)
  have hWorld :
      base.resumed scene.session =
        (base.overlaid scene.session).forgetChanges := by
    rw [World.resumed,
      World.takeOffStray_eq_self hCoherent.thingIds hCarried]
  have hSame :
      (base.resumed scene.session).SameProgress
        scene.world := by
    rw [hWorld]
    exact
      { things := hOverlaid.things
        rooms := hOverlaid.rooms
        puzzles := hOverlaid.puzzles }
  have hAgain :
      ({ scene with world := base.resumed scene.session }
        : Scene).IsConsistent :=
    hConsistent.of_hands_iff (hBase.resumed scene.session)
      (fun id => hSame.places_iff id .carried)
      hSame.wears_iff rfl rfl
  exact ⟨reconcile_eq_self hAgain, hSame⟩

end Scene

end TextAdventure
