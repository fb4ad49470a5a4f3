import TextAdventure.Proofs.World.Chains
import TextAdventure.Proofs.World.Coherence

/-
  What relocating a thing does, and when it is refused.

  In a coherent world a thing goes to its target exactly if
  the target is there and is not inside the thing. Then only
  the thing's own place and its listings are other than they
  were, and the world stays coherent.

  Main declarations:
    * `World.relocate_eq_ok_iff`
    * `World.IsCoherent.exists_relocate_iff`
    * `World.IsCoherent.moveTo`
    * `World.IsCoherent.relocate`
-/

namespace TextAdventure

open Relation (ReflTransGen TransGen)

namespace World

------------------------------------------------------------
-- Accepted Relocations
------------------------------------------------------------

/- The world with a thing moved from one place to another. -/
def moveTo
    (world : World)
    (id : String)
    (origin target : Placement) : World :=
  { world with
      things :=
        Catalog.update id (placeThing target) world.things
      rooms :=
        listAt id (unlistFrom id world.rooms origin) target
    }.markChanged id

/- An accepted relocation moves a known thing. -/
theorem relocate_eq_ok_iff
    {world moved : World}
    {id : String}
    {target old : Placement} :
    world.relocate id target = .ok (moved, old) ↔
      ∃ thing, world.thing? id = some thing ∧
        world.targetFault? id target = none ∧
        old = thing.placement ∧
        moved = world.moveTo id thing.placement target := by
  unfold relocate
  constructor
  · intro hOk
    cases hThing : world.thing? id with
    | none => simp [hThing] at hOk
    | some thing =>
        cases hFault : world.targetFault? id target with
        | some fault => simp [hThing, hFault] at hOk
        | none =>
            simp only [hThing, hFault, Except.ok.injEq,
              Prod.mk.injEq] at hOk
            exact ⟨thing, rfl, rfl, hOk.2.symm, hOk.1.symm⟩
  · rintro ⟨thing, hThing, hFault, rfl, rfl⟩
    simp [hThing, hFault, moveTo]

/- A target is refused only if it is not there or a cycle. -/
theorem targetFault?_eq_none_iff
    {world : World}
    (hAcyclic : IsAcyclic world.things)
    {id : String}
    {target : Placement} :
    world.targetFault? id target = none ↔
      world.Resolves target ∧
        ∀ container, target = .container container →
          ¬ ReflTransGen (Inside world.things)
            container id := by
  cases target with
  | room room =>
      simp [targetFault?, Resolves,
        ← Catalog.has_eq_true_iff_mem_ids]
  | container container =>
      simp only [targetFault?, Resolves,
        ← Catalog.has_eq_true_iff_mem_ids,
        Placement.container.injEq, forall_eq',
        ← wouldContainCycle_eq_false_iff hAcyclic]
      cases Catalog.has container world.things <;>
        cases world.wouldContainCycle id container <;> simp
  | carried => simp [targetFault?, Resolves]
  | nowhere => simp [targetFault?, Resolves]

/-
  A thing can be relocated exactly if it is known and its
  target is there and not inside it.
-/
theorem IsCoherent.exists_relocate_iff
    {world : World}
    (hCoherent : world.IsCoherent)
    {id : String}
    {target : Placement} :
    (∃ moved old,
        world.relocate id target = .ok (moved, old)) ↔
      id ∈ Catalog.ids world.things ∧
        world.Resolves target ∧
        ∀ container, target = .container container →
          ¬ ReflTransGen (Inside world.things)
            container id := by
  simp only [relocate_eq_ok_iff,
    targetFault?_eq_none_iff hCoherent.acyclic]
  constructor
  · rintro ⟨moved, old, thing, hThing, hTarget, -, -⟩
    exact ⟨(Catalog.has_eq_true_iff_mem_ids _ _).mp
      (Catalog.has_of_find? hThing), hTarget⟩
  · rintro ⟨hKnown, hTarget⟩
    rcases Catalog.exists_find?_of_has
        ((Catalog.has_eq_true_iff_mem_ids _ _).mpr hKnown) with
      ⟨thing, hThing⟩
    exact ⟨_, _, thing, hThing, hTarget, rfl, rfl⟩

------------------------------------------------------------
-- Moved Things
------------------------------------------------------------

section Moved

variable {world : World}

@[simp] theorem moveTo_things
    (id : String)
    (origin target : Placement) :
    (world.moveTo id origin target).things =
      Catalog.update id (placeThing target)
        world.things := by
  simp [moveTo]

@[simp] theorem moveTo_rooms
    (id : String)
    (origin target : Placement) :
    (world.moveTo id origin target).rooms =
      listAt id (unlistFrom id world.rooms origin)
        target := by
  simp [moveTo]

@[simp] theorem moveTo_puzzles
    (id : String)
    (origin target : Placement) :
    (world.moveTo id origin target).puzzles =
      world.puzzles := by
  simp [moveTo]

@[simp] theorem moveTo_scripts
    (id : String)
    (origin target : Placement) :
    (world.moveTo id origin target).scripts =
      world.scripts := by
  simp [moveTo]

@[simp] theorem moveTo_rules
    (id : String)
    (origin target : Placement) :
    (world.moveTo id origin target).rules = world.rules := by
  simp [moveTo]

theorem mem_moveTo_changed_iff
    (id other : String)
    (origin target : Placement) :
    other ∈ (world.moveTo id origin target).changed ↔
      other = id ∨ other ∈ world.changed := by
  rw [moveTo, mem_markChanged_iff]

@[simp] theorem placeThing_id
    (target : Placement)
    (thing : Thing) :
    (placeThing target thing).id = thing.id := rfl

/- The moved thing is found at its id. -/
theorem thing?_moveTo_self
    (id : String)
    (origin target : Placement) :
    (world.moveTo id origin target).thing? id =
      (world.thing? id).map (placeThing target) := by
  rw [thing?, moveTo_things]
  exact Catalog.find?_update_self (by simp) world.things

/- Every other thing is as it was. -/
theorem thing?_moveTo_of_ne
    {id other : String}
    (hNe : other ≠ id)
    (origin target : Placement) :
    (world.moveTo id origin target).thing? other =
      world.thing? other := by
  rw [thing?, moveTo_things]
  exact Catalog.find?_update_of_ne (by simp) hNe world.things

@[simp] theorem ids_moveTo_things
    (id : String)
    (origin target : Placement) :
    Catalog.ids (world.moveTo id origin target).things =
      Catalog.ids world.things := by
  rw [moveTo_things]
  exact Catalog.ids_update (by simp [placeThing]) world.things

/- A view of things without places is the same all over. -/
theorem map_things_relocate
    {α : Type}
    {view : Thing → α}
    (hKeeps :
      ∀ target thing,
        view (placeThing target thing) = view thing)
    {moved : World}
    {id : String}
    {target old : Placement}
    (hOk : world.relocate id target = .ok (moved, old)) :
    moved.things.map view = world.things.map view := by
  rcases relocate_eq_ok_iff.mp hOk with ⟨thing, -, -, -, rfl⟩
  rw [moveTo_things]
  exact Catalog.map_update (fun thing _ => hKeeps target thing)
    world.things

/- Only the moved thing is at another place. -/
theorem places_moveTo_iff
    (hIds : (Catalog.ids world.things).Nodup)
    {id : String}
    (hKnown : id ∈ Catalog.ids world.things)
    (origin target : Placement)
    {other : String}
    {placement : Placement} :
    (world.moveTo id origin target).Places other placement ↔
      other = id ∧ placement = target ∨
        other ≠ id ∧ world.Places other placement := by
  simp only [Places, moveTo_things,
    Catalog.mem_update_iff hIds]
  constructor
  · rintro ⟨thing, ⟨old, hOld, hId, rfl⟩ | ⟨hMem, hNe⟩,
      rfl, rfl⟩
    · exact Or.inl ⟨hId, rfl⟩
    · exact Or.inr ⟨hNe, thing, hMem, rfl, rfl⟩
  · rintro (⟨rfl, rfl⟩ | ⟨hNe, thing, hMem, rfl, rfl⟩)
    · rcases (Catalog.mem_ids_iff _ _).mp hKnown with
        ⟨old, hOld, hId⟩
      exact ⟨placeThing placement old,
        Or.inl ⟨old, hOld, hId, rfl⟩, hId, rfl⟩
    · exact ⟨thing, Or.inr ⟨hMem, hNe⟩, rfl, rfl⟩

/- What leaves the player's hands is no longer worn. -/
theorem wears_moveTo_iff
    (hIds : (Catalog.ids world.things).Nodup)
    (id : String)
    (origin target : Placement)
    {other : String} :
    (world.moveTo id origin target).Wears other ↔
      world.Wears other ∧
        (other = id → target = .carried) := by
  simp only [Wears, moveTo_things,
    Catalog.mem_update_iff hIds]
  constructor
  · rintro ⟨thing, ⟨old, hOld, hId, rfl⟩ | ⟨hMem, hNe⟩,
      rfl, hWorn⟩
    · have hBoth :
          old.isWorn = true ∧ target.isCarried = true := by
        simpa [placeThing] using hWorn
      exact ⟨⟨old, hOld, rfl, hBoth.1⟩,
        fun _ => by simpa using hBoth.2⟩
    · exact ⟨⟨thing, hMem, rfl, hWorn⟩,
        fun hEq => absurd hEq hNe⟩
  · rintro ⟨⟨thing, hMem, rfl, hWorn⟩, hCarried⟩
    by_cases hId : thing.id = id
    · refine ⟨placeThing target thing,
        Or.inl ⟨thing, hMem, hId, rfl⟩, rfl, ?_⟩
      simp [placeThing, hWorn, hCarried hId]
    · exact ⟨thing, Or.inr ⟨hMem, hId⟩, rfl, hWorn⟩

end Moved

------------------------------------------------------------
-- Changed Listings
------------------------------------------------------------

section Listings

variable {world : World}

/- Only a room that a placement names loses a listing. -/
theorem unlistFrom_eq_map
    {rooms : List Room}
    (hIds : (Catalog.ids rooms).Nodup)
    (id : String)
    (origin : Placement) :
    unlistFrom id rooms origin =
      rooms.map (fun room =>
        if origin = .room room.id then room.unlist id
        else room) := by
  cases origin with
  | room old =>
      simp [unlistFrom, Catalog.update_eq_map hIds, eq_comm]
  | container => simp [unlistFrom]
  | carried => simp [unlistFrom]
  | nowhere => simp [unlistFrom]

/- Only a room that a placement names gets a listing. -/
theorem listAt_eq_map
    {rooms : List Room}
    (hIds : (Catalog.ids rooms).Nodup)
    (id : String)
    (target : Placement) :
    listAt id rooms target =
      rooms.map (fun room =>
        if target = .room room.id then room.list id
        else room) := by
  cases target with
  | room new =>
      simp [listAt, Catalog.update_eq_map hIds, eq_comm]
  | container => simp [listAt]
  | carried => simp [listAt]
  | nowhere => simp [listAt]

@[simp] theorem unlist_id (room : Room) (id : String) :
    (room.unlist id).id = room.id := rfl

@[simp] theorem list_id (room : Room) (id : String) :
    (room.list id).id = room.id := by
  unfold Room.list
  split <;> rfl

theorem mem_unlist_things_iff
    (room : Room)
    (id other : String) :
    other ∈ (room.unlist id).things ↔
      other ∈ room.things ∧ other ≠ id := by
  simp [Room.unlist]

theorem mem_list_things_iff
    (room : Room)
    (id other : String) :
    other ∈ (room.list id).things ↔
      other ∈ room.things ∨ other = id := by
  unfold Room.list
  split
  · rename_i hListed
    have hMem : id ∈ room.things := by simpa using hListed
    constructor
    · exact Or.inl
    · rintro (hOther | rfl)
      · exact hOther
      · exact hMem
  · simp

/- A room after a thing has left one place for another. -/
def relistMoved
    (id : String)
    (origin target : Placement)
    (room : Room) : Room :=
  let left :=
    if origin = .room room.id then room.unlist id else room
  if target = .room room.id then left.list id else left

@[simp] theorem relistMoved_id
    (id : String)
    (origin target : Placement)
    (room : Room) :
    (relistMoved id origin target room).id = room.id := by
  unfold relistMoved
  split <;> split <;> simp

theorem moveTo_rooms_eq_map
    (hIds : (Catalog.ids world.rooms).Nodup)
    (id : String)
    (origin target : Placement) :
    (world.moveTo id origin target).rooms =
      world.rooms.map (relistMoved id origin target) := by
  have hUnlisted :
      (Catalog.ids
        (unlistFrom id world.rooms origin)).Nodup := by
    rw [unlistFrom_eq_map hIds, Catalog.ids_map]
    · exact hIds
    · intro room
      split <;> rfl
  rw [moveTo_rooms, listAt_eq_map hUnlisted,
    unlistFrom_eq_map hIds, List.map_map]
  apply List.map_congr_left
  intro room _
  by_cases hOrigin : origin = .room room.id <;>
    simp [relistMoved, hOrigin]

@[simp] theorem ids_moveTo_rooms
    (hIds : (Catalog.ids world.rooms).Nodup)
    (id : String)
    (origin target : Placement) :
    Catalog.ids (world.moveTo id origin target).rooms =
      Catalog.ids world.rooms := by
  rw [moveTo_rooms_eq_map hIds, Catalog.ids_map]
  intro room
  exact relistMoved_id id origin target room

theorem mem_relistMoved_things_iff
    (id other : String)
    (origin target : Placement)
    (room : Room) :
    other ∈ (relistMoved id origin target room).things ↔
      other = id ∧ target = .room room.id ∨
        other ∈ room.things ∧
          ¬ (other = id ∧ origin = .room room.id) := by
  by_cases hOrigin : origin = .room room.id <;>
    by_cases hTarget : target = .room room.id <;>
      simp only [relistMoved, hOrigin, hTarget, if_true,
        if_false, mem_list_things_iff, mem_unlist_things_iff] <;>
      tauto

/- Only the moved thing is listed elsewhere. -/
theorem IsCoherent.lists_moveTo_iff
    (hCoherent : world.IsCoherent)
    {id : String}
    {thing : Thing}
    (hThing : world.thing? id = some thing)
    {target : Placement}
    (hTarget : world.Resolves target)
    {room other : String} :
    (world.moveTo id thing.placement target).Lists room other ↔
      other = id ∧ target = .room room ∨
        other ≠ id ∧ world.Lists room other := by
  have hPlace : world.Places id thing.placement :=
    (places_iff hCoherent.thingIds).mpr ⟨thing, hThing, rfl⟩
  have hOldPlace :
      ∀ room ∈ world.rooms, id ∈ room.things →
        thing.placement = .room room.id := by
    intro room hRoom hListed
    exact places_unique hCoherent.thingIds hPlace
      ((hCoherent.listed room.id id).mp
        ⟨room, hRoom, rfl, hListed⟩)
  unfold Lists
  rw [moveTo_rooms_eq_map hCoherent.roomIds]
  constructor
  · rintro ⟨entry, hEntry, rfl, hListed⟩
    rcases List.mem_map.mp hEntry with ⟨old, hOld, rfl⟩
    rw [mem_relistMoved_things_iff] at hListed
    rcases hListed with ⟨rfl, rfl⟩ | ⟨hListed, hStays⟩
    · exact Or.inl ⟨rfl, by simp⟩
    · refine Or.inr ⟨?_, old, hOld, by simp, hListed⟩
      rintro rfl
      exact hStays ⟨rfl, hOldPlace old hOld hListed⟩
  · rintro (⟨rfl, rfl⟩ | ⟨hNe, old, hOld, rfl, hListed⟩)
    · rcases (Catalog.mem_ids_iff _ _).mp hTarget with
        ⟨old, hOld, rfl⟩
      refine ⟨_, List.mem_map_of_mem hOld, by simp, ?_⟩
      rw [mem_relistMoved_things_iff]
      exact Or.inl ⟨rfl, rfl⟩
    · refine ⟨_, List.mem_map_of_mem hOld, by simp, ?_⟩
      rw [mem_relistMoved_things_iff]
      exact Or.inr ⟨hListed, fun hBoth => hNe hBoth.1⟩

end Listings

------------------------------------------------------------
-- Coherence
------------------------------------------------------------

section Coherence

variable {world moved : World}
variable {id : String}
variable {target old : Placement}

/- Moving a thing to where it may go keeps coherence. -/
theorem IsCoherent.moveTo
    (hCoherent : world.IsCoherent)
    {thing : Thing}
    (hThing : world.thing? id = some thing)
    (hResolves : world.Resolves target)
    (hApart :
      ∀ container, target = .container container →
        ¬ ReflTransGen (Inside world.things) container id) :
    (world.moveTo id thing.placement target).IsCoherent := by
  have hKnown : id ∈ Catalog.ids world.things :=
    (Catalog.has_eq_true_iff_mem_ids _ _).mp
      (Catalog.has_of_find? hThing)
  have hRoomIds :=
    ids_moveTo_rooms hCoherent.roomIds id thing.placement
      target
  have hThingIds :
      Catalog.ids
          (world.moveTo id thing.placement target).things =
        Catalog.ids world.things :=
    ids_moveTo_things id thing.placement target
  have hNodup :
      (Catalog.ids
        (world.moveTo id thing.placement
          target).things).Nodup := by
    rw [hThingIds]
    exact hCoherent.thingIds
  refine
    { roomIds := by
        rw [hRoomIds]
        exact hCoherent.roomIds
      thingIds := hNodup
      puzzleIds := by
        rw [moveTo_puzzles]
        exact hCoherent.puzzleIds
      resolves := ?_
      listed := ?_
      acyclic := ?_ }
  · intro other placement hPlaces
    rw [resolves_congr hRoomIds hThingIds]
    rcases (places_moveTo_iff hCoherent.thingIds hKnown
        thing.placement target).mp hPlaces with
      ⟨-, rfl⟩ | ⟨-, hOld⟩
    · exact hResolves
    · exact hCoherent.resolves other placement hOld
  · intro room other
    rw [hCoherent.lists_moveTo_iff hThing hResolves,
      places_moveTo_iff hCoherent.thingIds hKnown,
      hCoherent.listed]
    simp only [eq_comm]
  · apply hCoherent.acyclic.of_placement hApart
    intro inner outer hInside
    rw [inside_iff_places hNodup,
      places_moveTo_iff hCoherent.thingIds hKnown] at hInside
    rcases hInside with ⟨rfl, rfl⟩ | ⟨-, hOld⟩
    · exact Or.inr ⟨rfl, rfl⟩
    · exact Or.inl
        ((inside_iff_places hCoherent.thingIds).mpr hOld)

/- An accepted relocation keeps coherence. -/
theorem IsCoherent.relocate
    (hCoherent : world.IsCoherent)
    (hOk : world.relocate id target = .ok (moved, old)) :
    moved.IsCoherent := by
  rcases relocate_eq_ok_iff.mp hOk with
    ⟨thing, hThing, hFault, -, rfl⟩
  rcases (targetFault?_eq_none_iff
    hCoherent.acyclic).mp hFault with ⟨hResolves, hApart⟩
  exact hCoherent.moveTo hThing hResolves hApart

/- After an accepted relocation only its thing has moved. -/
theorem places_relocate_iff
    (hIds : (Catalog.ids world.things).Nodup)
    (hOk : world.relocate id target = .ok (moved, old))
    {other : String}
    {placement : Placement} :
    moved.Places other placement ↔
      other = id ∧ placement = target ∨
        other ≠ id ∧ world.Places other placement := by
  rcases relocate_eq_ok_iff.mp hOk with
    ⟨thing, hThing, -, -, rfl⟩
  exact places_moveTo_iff hIds
    ((Catalog.has_eq_true_iff_mem_ids _ _).mp
      (Catalog.has_of_find? hThing)) thing.placement target

theorem wears_relocate_iff
    (hIds : (Catalog.ids world.things).Nodup)
    (hOk : world.relocate id target = .ok (moved, old))
    {other : String} :
    moved.Wears other ↔
      world.Wears other ∧
        (other = id → target = .carried) := by
  rcases relocate_eq_ok_iff.mp hOk with
    ⟨thing, -, -, -, rfl⟩
  exact wears_moveTo_iff hIds id thing.placement target

end Coherence

end World

end TextAdventure
