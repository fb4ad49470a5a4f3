import TextAdventure.Proofs.World.Coherence
import TextAdventure.World.Growth

/-
  Worlds that grow while they are played.

  A merge is a run of additions of single entities. Each of
  them takes a new id, so nothing can be in a new thing or
  room yet, and a coherent world stays coherent. What is
  there already keeps its place in the list of things.

  Main declarations:
    * `World.Grows`
    * `World.merge_grows`
    * `World.IsCoherent.grow`
    * `World.things_of_grows`
    * `World.puzzles_of_grow`
-/

namespace TextAdventure

open Relation (ReflTransGen TransGen)

namespace World

------------------------------------------------------------
-- Additions
------------------------------------------------------------

/- One accepted addition; a new thing passes a test. -/
inductive Grows (may : Thing → Prop) :
    World → World → Prop where
| room
    {before after : World}
    (room : Room)
    (hAdd : before.addRoom? room = some after) :
    Grows may before after
| thing
    {before after : World}
    (thing : Thing)
    (hMay : may thing)
    (hAdd : before.addThing thing = .ok (some after)) :
    Grows may before after
| puzzle
    {before after : World}
    (puzzle : Puzzle)
    (hAdd : before.addPuzzle? puzzle = some after) :
    Grows may before after
| script
    {before after : World}
    (script : Script)
    (hAdd : before.addScript? script = some after) :
    Grows may before after
| exits
    {before after : World}
    (source target : String)
    (direction : Direction)
    (hAdd : before.connect source direction target =
      .ok after) :
    Grows may before after

variable {may : Thing → Prop}
variable {before after : World}

/- A new room lists at most what is placed in it. -/
theorem eq_of_addRoom?_eq_some
    {room : Room}
    (hAdd : before.addRoom? room = some after) :
    Catalog.has room.id before.rooms = false ∧
      ∃ listing,
        (∀ id ∈ listing, ∃ thing,
          before.thing? id = some thing ∧
            thing.placement = .room room.id) ∧
        after =
          { before with
              rooms :=
                before.rooms ++
                  [{ room with things := listing }] } := by
  unfold addRoom? at hAdd
  split at hAdd
  · simp at hAdd
  · rename_i hKnown
    refine ⟨by simpa using hKnown, _, ?_,
      (Option.some.inj hAdd).symm⟩
    intro id hListed
    have hHere := (List.mem_filter.mp hListed).2
    cases hThing : before.thing? id with
    | none => simp [hThing] at hHere
    | some thing =>
        refine ⟨thing, rfl, ?_⟩
        cases hPlacement : thing.placement <;>
          simp [hThing, hPlacement,
            Placement.room?] at hHere
        rw [hHere]

/- A new thing is placed where there is something. -/
theorem newPlacementFault?_eq_none_iff
    (world : World)
    (thing : Thing) :
    world.newPlacementFault? thing = none ↔
      world.Resolves thing.placement := by
  unfold newPlacementFault?
  cases thing.placement <;>
    simp [Resolves, ← Catalog.has_eq_true_iff_mem_ids]

theorem addThing_eq_ok_some_iff
    {thing : Thing} :
    before.addThing thing = .ok (some after) ↔
      Catalog.has thing.id before.things = false ∧
        before.Resolves thing.placement ∧
        after =
          { before with
              rooms := listNew before.rooms thing
              things := before.things ++ [thing] } := by
  rw [← newPlacementFault?_eq_none_iff]
  unfold addThing
  cases Catalog.has thing.id before.things <;>
    cases before.newPlacementFault? thing <;>
      simp [eq_comm]

theorem addPuzzle?_eq_some_iff
    {puzzle : Puzzle} :
    before.addPuzzle? puzzle = some after ↔
      Catalog.has puzzle.id before.puzzles = false ∧
        after =
          { before with
              puzzles := before.puzzles ++ [puzzle] } := by
  unfold addPuzzle?
  cases Catalog.has puzzle.id before.puzzles <;>
    simp [eq_comm]

/- A script is the only part of a world with a new script. -/
theorem eq_of_addScript?_eq_some
    {script : Script}
    (hAdd : before.addScript? script = some after) :
    after =
      { before with
          scripts := before.scripts ++ [script] } := by
  unfold addScript? at hAdd
  split at hAdd
  · simp at hAdd
  · exact (Option.some.inj hAdd).symm

/- Connecting rooms gives two rooms at most an exit each. -/
theorem eq_of_connect_eq_ok
    {source target : String}
    {direction : Direction}
    (hAdd : before.connect source direction target =
      .ok after) :
    after =
      (before.updateRoom source
          (joinRoom direction target)).updateRoom target
            (joinRoom direction.opposite source) := by
  unfold connect at hAdd
  split at hAdd
  · simp at hAdd
  · split at hAdd
    · simp at hAdd
    · exact (Except.ok.inj hAdd).symm

------------------------------------------------------------
-- Coherence
------------------------------------------------------------

/- No thing is placed in a room with a new id. -/
theorem IsCoherent.not_places_room
    (hCoherent : before.IsCoherent)
    {room : String}
    (hNew : Catalog.has room before.rooms = false)
    (id : String) :
    ¬ before.Places id (.room room) := by
  intro hPlaces
  exact (Catalog.has_eq_false_iff _ _).mp hNew
    (hCoherent.resolves id _ hPlaces)

/- Nothing is inside a thing with a new id. -/
theorem IsCoherent.not_inside
    (hCoherent : before.IsCoherent)
    {outer : String}
    (hNew : Catalog.has outer before.things = false)
    (inner : String) :
    ¬ Inside before.things inner outer := by
  intro hInside
  exact (Catalog.has_eq_false_iff _ _).mp hNew
    (hCoherent.resolves inner _
      ((inside_iff_places hCoherent.thingIds).mp hInside))

/- More entities resolve more placements. -/
theorem Resolves.mono
    {placement : Placement}
    (hResolves : before.Resolves placement)
    (hRooms :
      Catalog.ids before.rooms ⊆ Catalog.ids after.rooms)
    (hThings :
      Catalog.ids before.things ⊆
        Catalog.ids after.things) :
    after.Resolves placement := by
  cases placement with
  | room room => exact hRooms hResolves
  | container container => exact hThings hResolves
  | carried => trivial
  | nowhere => trivial

/- A new room is empty, since its id is new. -/
theorem IsCoherent.addRoom?
    (hCoherent : before.IsCoherent)
    {room : Room}
    (hAdd : before.addRoom? room = some after) :
    after.IsCoherent := by
  rcases eq_of_addRoom?_eq_some hAdd with
    ⟨hNew, listing, hListing, rfl⟩
  have hEmpty :
      ∀ id : String,
        id ∉ listing := by
    intro id hListed
    rcases hListing id hListed with
      ⟨thing, hThing, hPlacement⟩
    exact hCoherent.not_places_room hNew id
      ((places_iff hCoherent.thingIds).mpr
        ⟨thing, hThing, hPlacement⟩)
  refine
    { roomIds :=
        Catalog.nodup_ids_append hCoherent.roomIds hNew
      thingIds := hCoherent.thingIds
      puzzleIds := hCoherent.puzzleIds
      resolves := ?_
      listed := ?_
      acyclic := hCoherent.acyclic }
  · intro id placement hPlaces
    apply (hCoherent.resolves id placement hPlaces).mono
    · simp [Catalog.ids]
    · exact List.Subset.refl _
  · intro other id
    refine Iff.trans ?_ (hCoherent.listed other id)
    simp [Lists, or_and_right, exists_or, hEmpty]

/- Rooms with a new thing list it where it is placed. -/
theorem mem_listNew_iff
    {rooms : List Room}
    (hIds : (Catalog.ids rooms).Nodup)
    (thing : Thing)
    (room id : String) :
    (∃ entry ∈ listNew rooms thing,
        entry.id = room ∧ id ∈ entry.things) ↔
      (∃ entry ∈ rooms,
          entry.id = room ∧ id ∈ entry.things) ∨
        id = thing.id ∧ thing.placement = .room room ∧
          room ∈ Catalog.ids rooms := by
  unfold listNew
  cases hPlacement : thing.placement with
  | container => simp
  | carried => simp
  | nowhere => simp
  | room place =>
      simp only [Catalog.mem_update_iff hIds, idOf_room,
        Catalog.mem_ids_iff, Placement.room.injEq]
      constructor
      · rintro ⟨entry, ⟨old, hOld, hId, rfl⟩ | ⟨hMem, hNe⟩,
          rfl, hListed⟩
        · rcases List.mem_append.mp hListed with
            hOther | hSelf
          · exact Or.inl ⟨old, hOld, rfl, hOther⟩
          · exact Or.inr ⟨List.mem_singleton.mp hSelf,
              hId.symm, old, hOld, rfl⟩
        · exact Or.inl ⟨entry, hMem, rfl, hListed⟩
      · rintro (⟨entry, hMem, rfl, hListed⟩ |
          ⟨rfl, rfl, old, hOld, hId⟩)
        · by_cases hId : entry.id = place
          · exact ⟨_, Or.inl ⟨entry, hMem, hId, rfl⟩, rfl,
              List.mem_append_left _ hListed⟩
          · exact ⟨entry, Or.inr ⟨hMem, hId⟩, rfl, hListed⟩
        · exact ⟨_, Or.inl ⟨old, hOld, hId, rfl⟩, hId,
            by simp⟩

theorem ids_listNew
    (rooms : List Room)
    (thing : Thing) :
    Catalog.ids (listNew rooms thing) =
      Catalog.ids rooms := by
  unfold listNew
  split
  · exact Catalog.ids_update (by simp) rooms
  · rfl

/- With a new thing behind the others, one more is placed. -/
theorem places_append_iff
    (rooms : List Room)
    (thing : Thing)
    (id : String)
    (placement : Placement) :
    ({ before with
          rooms := rooms
          things := before.things ++ [thing] }
        : World).Places id placement ↔
      before.Places id placement ∨
        id = thing.id ∧ thing.placement = placement := by
  simp [Places, or_and_right, exists_or, eq_comm]

/- Nothing is in a new thing, so it closes no cycle. -/
theorem IsCoherent.acyclic_append
    (hCoherent : before.IsCoherent)
    {thing : Thing}
    (hNew : Catalog.has thing.id before.things = false)
    (hResolves : before.Resolves thing.placement) :
    IsAcyclic (before.things ++ [thing]) := by
  have hApart :
      ∀ container, thing.placement = .container container →
        ¬ ReflTransGen (Inside before.things)
          container thing.id := by
    intro container hPlacement hChain
    rw [hPlacement] at hResolves
    rcases hChain.cases_tail with hSame | ⟨_, -, hLast⟩
    · exact (Catalog.has_eq_false_iff _ _).mp hNew
        (hSame ▸ hResolves)
    · exact hCoherent.not_inside hNew _ hLast
  apply hCoherent.acyclic.of_placement hApart
  intro inner outer hLink
  have hAfter :
      ({ before with things := before.things ++ [thing] }
        : World).Places inner (.container outer) :=
    (inside_iff_places
      (Catalog.nodup_ids_append hCoherent.thingIds hNew)).mp
      hLink
  rcases (places_append_iff _ thing inner _).mp hAfter with
    hOld | hSelf
  · exact Or.inl
      ((inside_iff_places hCoherent.thingIds).mpr hOld)
  · exact Or.inr hSelf

/- A new thing goes to a known place; nothing is in it. -/
theorem IsCoherent.addThing
    (hCoherent : before.IsCoherent)
    {thing : Thing}
    (hAdd : before.addThing thing = .ok (some after)) :
    after.IsCoherent := by
  rcases addThing_eq_ok_some_iff.mp hAdd with
    ⟨hNew, hResolves, rfl⟩
  refine
    { roomIds := by
        rw [ids_listNew]
        exact hCoherent.roomIds
      thingIds :=
        Catalog.nodup_ids_append hCoherent.thingIds hNew
      puzzleIds := hCoherent.puzzleIds
      resolves := ?_
      listed := ?_
      acyclic := hCoherent.acyclic_append hNew hResolves }
  · intro id placement hAfter
    have hBefore : before.Resolves placement := by
      rcases (places_append_iff _ thing id placement).mp
          hAfter with hOld | ⟨-, rfl⟩
      · exact hCoherent.resolves id placement hOld
      · exact hResolves
    apply hBefore.mono
    · rw [ids_listNew]
      exact List.Subset.refl _
    · simp [Catalog.ids]
  · intro room id
    refine (mem_listNew_iff hCoherent.roomIds thing room
      id).trans (Iff.trans ?_
        (places_append_iff _ thing id (.room room)).symm)
    apply or_congr (hCoherent.listed room id)
    constructor
    · rintro ⟨rfl, hRoom, -⟩
      exact ⟨rfl, hRoom⟩
    · rintro ⟨rfl, hRoom⟩
      rw [hRoom] at hResolves
      exact ⟨rfl, hRoom, hResolves⟩

@[simp] theorem joinRoom_id
    (direction : Direction)
    (destination : String)
    (room : Room) :
    (joinRoom direction destination room).id = room.id := by
  unfold joinRoom
  split <;> rfl

@[simp] theorem joinRoom_things
    (direction : Direction)
    (destination : String)
    (room : Room) :
    (joinRoom direction destination room).things =
      room.things := by
  unfold joinRoom
  split <;> rfl

theorem layout_connect
    {source target : String}
    {direction : Direction}
    (hAdd : before.connect source direction target =
      .ok after) :
    after.layout = before.layout := by
  rw [eq_of_connect_eq_ok hAdd,
    layout_updateRoom _ (by simp) (by simp),
    layout_updateRoom _ (by simp) (by simp)]

/- An accepted addition keeps coherence. -/
theorem IsCoherent.grow
    (hCoherent : before.IsCoherent)
    (hGrows : Grows may before after) :
    after.IsCoherent := by
  cases hGrows with
  | room room hAdd => exact hCoherent.addRoom? hAdd
  | thing thing hMay hAdd => exact hCoherent.addThing hAdd
  | puzzle puzzle hAdd =>
      rcases addPuzzle?_eq_some_iff.mp hAdd with ⟨hNew, rfl⟩
      exact
        { roomIds := hCoherent.roomIds
          thingIds := hCoherent.thingIds
          puzzleIds :=
            Catalog.nodup_ids_append hCoherent.puzzleIds hNew
          resolves := hCoherent.resolves
          listed := hCoherent.listed
          acyclic := hCoherent.acyclic }
  | script script hAdd =>
      cases eq_of_addScript?_eq_some hAdd
      exact hCoherent.of_layout_eq rfl
  | exits source target direction hAdd =>
      exact hCoherent.of_layout_eq (layout_connect hAdd)

/- Additions one after the other keep coherence. -/
theorem IsCoherent.grows
    (hCoherent : before.IsCoherent)
    (hGrows : ReflTransGen (Grows may) before after) :
    after.IsCoherent := by
  induction hGrows with
  | refl => exact hCoherent
  | tail _ hLast ih => exact ih.grow hLast

------------------------------------------------------------
-- Added Things
------------------------------------------------------------

/- An addition puts at most one thing behind the others. -/
theorem things_of_grow
    (hGrows : Grows may before after) :
    after.things = before.things ∨
      ∃ thing, may thing ∧
        thing.id ∉ Catalog.ids before.things ∧
        after.things = before.things ++ [thing] := by
  cases hGrows with
  | room room hAdd =>
      rcases eq_of_addRoom?_eq_some hAdd with ⟨-, -, -, rfl⟩
      exact Or.inl rfl
  | thing thing hMay hAdd =>
      rcases addThing_eq_ok_some_iff.mp hAdd with
        ⟨hNew, -, rfl⟩
      exact Or.inr ⟨thing, hMay,
        (Catalog.has_eq_false_iff _ _).mp hNew, rfl⟩
  | puzzle puzzle hAdd =>
      rcases addPuzzle?_eq_some_iff.mp hAdd with ⟨-, rfl⟩
      exact Or.inl rfl
  | script script hAdd =>
      cases eq_of_addScript?_eq_some hAdd
      exact Or.inl rfl
  | exits source target direction hAdd =>
      cases eq_of_connect_eq_ok hAdd
      exact Or.inl rfl

/- Additions put new things behind the others. -/
theorem things_of_grows
    (hGrows : ReflTransGen (Grows may) before after) :
    ∃ added, after.things = before.things ++ added ∧
      ∀ thing ∈ added, may thing ∧
        thing.id ∉ Catalog.ids before.things := by
  induction hGrows with
  | refl => exact ⟨[], by simp⟩
  | tail _ hLast ih =>
      rcases ih with ⟨added, hThings, hAdded⟩
      rcases things_of_grow hLast with
        hSame | ⟨thing, hMay, hNew, hMore⟩
      · exact ⟨added, by rw [hSame, hThings], hAdded⟩
      · refine ⟨added ++ [thing], ?_, ?_⟩
        · rw [hMore, hThings, List.append_assoc]
        · intro other hOther
          rcases List.mem_append.mp hOther with hOld | hSelf
          · exact hAdded other hOld
          · rw [List.mem_singleton] at hSelf
            subst hSelf
            refine ⟨hMay, ?_⟩
            intro hKnown
            apply hNew
            rw [hThings]
            simp only [Catalog.ids, List.map_append,
              List.mem_append]
            exact Or.inl hKnown

/- A thing that is known stays as it is as the world grows. -/
theorem thing?_of_grows
    {id : String}
    (hCoherent : before.IsCoherent)
    (hGrows : ReflTransGen (Grows may) before after)
    (hKnown : Catalog.has id before.things = true) :
    after.thing? id = before.thing? id := by
  rcases Catalog.exists_find?_of_has hKnown with
    ⟨thing, hThing⟩
  rcases Catalog.find?_some hThing with ⟨hMem, hId⟩
  rcases things_of_grows hGrows with ⟨added, hThings, -⟩
  have hStays : thing ∈ after.things := by
    rw [hThings]
    exact List.mem_append_left _ hMem
  have hFound : after.thing? id = some thing :=
    (Catalog.find?_eq_some_iff
      (hCoherent.grows hGrows).thingIds).mpr ⟨hStays, hId⟩
  exact hFound.trans hThing.symm

/- An addition puts at most one puzzle behind the others. -/
theorem puzzles_of_grow
    (hGrows : Grows may before after) :
    after.puzzles = before.puzzles ∨
      ∃ puzzle,
        Catalog.has puzzle.id before.puzzles = false ∧
        after.puzzles = before.puzzles ++ [puzzle] := by
  cases hGrows with
  | room room hAdd =>
      rcases eq_of_addRoom?_eq_some hAdd with ⟨-, -, -, rfl⟩
      exact Or.inl rfl
  | thing thing hMay hAdd =>
      rcases addThing_eq_ok_some_iff.mp hAdd with ⟨-, -, rfl⟩
      exact Or.inl rfl
  | puzzle puzzle hAdd =>
      rcases addPuzzle?_eq_some_iff.mp hAdd with ⟨hNew, rfl⟩
      exact Or.inr ⟨puzzle, hNew, rfl⟩
  | script script hAdd =>
      cases eq_of_addScript?_eq_some hAdd
      exact Or.inl rfl
  | exits source target direction hAdd =>
      cases eq_of_connect_eq_ok hAdd
      exact Or.inl rfl

end World

------------------------------------------------------------
-- Merges
------------------------------------------------------------

section Merging

variable {may : Thing → Prop}

namespace Merge

/- Steps that grow the world one by one grow it in a fold. -/
theorem foldl_grows
    {α : Type}
    {step : Merge → α → Merge}
    (hStep : ∀ merge entity,
      ReflTransGen (World.Grows may) merge.world
        (step merge entity).world)
    (entities : List α)
    (merge : Merge) :
    ReflTransGen (World.Grows may) merge.world
      (entities.foldl step merge).world := by
  induction entities generalizing merge with
  | nil => exact ReflTransGen.refl
  | cons entity rest ih =>
      exact (hStep merge entity).trans
        (ih (step merge entity))

theorem room_grows (merge : Merge) (room : Room) :
    ReflTransGen (World.Grows may) merge.world
      (merge.room room).world := by
  unfold Merge.room
  split
  · rename_i world hAdd
    exact ReflTransGen.single (.room room hAdd)
  · exact ReflTransGen.refl

theorem puzzle_grows (merge : Merge) (puzzle : Puzzle) :
    ReflTransGen (World.Grows may) merge.world
      (merge.puzzle puzzle).world := by
  unfold Merge.puzzle
  split
  · rename_i world hAdd
    exact ReflTransGen.single (.puzzle puzzle hAdd)
  · exact ReflTransGen.refl

theorem script_grows (merge : Merge) (script : Script) :
    ReflTransGen (World.Grows may) merge.world
      (merge.script script).world := by
  unfold Merge.script
  split
  · rename_i world hAdd
    exact ReflTransGen.single (.script script hAdd)
  · exact ReflTransGen.refl

/- One pass adds things of its list and puts off the rest. -/
theorem thingsOnce_grows
    {things : List Thing}
    (hMay : ∀ thing ∈ things, may thing)
    (merge : Merge) :
    ReflTransGen (World.Grows may) merge.world
        (merge.thingsOnce things).1.world ∧
      ∀ thing ∈ (merge.thingsOnce things).2,
        thing ∈ things := by
  induction things generalizing merge with
  | nil => exact ⟨ReflTransGen.refl, by simp [thingsOnce]⟩
  | cons thing rest ih =>
      have hRest : ∀ thing ∈ rest, may thing := by
        intro other hOther
        exact hMay other (List.mem_cons_of_mem _ hOther)
      unfold thingsOnce
      split
      · rename_i world hAdd
        rcases ih hRest
          { world := world
            report :=
              { merge.report with
                  thingsAdded :=
                    merge.report.thingsAdded ++
                      [thing.id] } } with
          ⟨hGrows, hLater⟩
        refine ⟨ReflTransGen.head
          (.thing thing (hMay thing List.mem_cons_self) hAdd)
          hGrows, ?_⟩
        intro other hOther
        exact List.mem_cons_of_mem _ (hLater other hOther)
      · rcases ih hRest
          { merge with
              report := merge.report.skip thing.id } with
          ⟨hGrows, hLater⟩
        refine ⟨hGrows, ?_⟩
        intro other hOther
        exact List.mem_cons_of_mem _ (hLater other hOther)
      · rcases ih hRest merge with ⟨hGrows, hLater⟩
        refine ⟨hGrows, ?_⟩
        intro other hOther
        rcases List.mem_cons.mp hOther with rfl | hTail
        · exact List.mem_cons_self
        · exact List.mem_cons_of_mem _ (hLater other hTail)

theorem things_grows
    (passes : Nat)
    {things : List Thing}
    (hMay : ∀ thing ∈ things, may thing)
    (merge : Merge) :
    ReflTransGen (World.Grows may) merge.world
      (merge.things passes things).1.world := by
  induction passes generalizing things merge with
  | zero => exact ReflTransGen.refl
  | succ passes ih =>
      rcases thingsOnce_grows hMay merge with
        ⟨hGrows, hLater⟩
      unfold Merge.things
      simp only
      split
      · exact hGrows
      · exact hGrows.trans
          (ih (fun thing hMem => hMay thing
            (hLater thing hMem)) _)

end Merge

/- A merge adds entities of its content one by one. -/
theorem World.merge_grows
    (world : World)
    (content : Content) :
    ReflTransGen
      (World.Grows (fun thing =>
        thing ∈ content.placeListed.things))
      world (world.merge content).value.1 := by
  let may (thing : Thing) : Prop :=
    thing ∈ content.placeListed.things
  let rooms : Merge :=
    content.placeListed.rooms.foldl Merge.room ⟨world, {}⟩
  have hRooms :
      ReflTransGen (World.Grows may) world rooms.world :=
    Merge.foldl_grows Merge.room_grows _ ⟨world, {}⟩
  have hThings :
      ReflTransGen (World.Grows may) rooms.world
        (rooms.things (content.placeListed.things.length + 1)
          content.placeListed.things).1.world :=
    Merge.things_grows _ (fun _ hMem => hMem) rooms
  exact ((hRooms.trans hThings).trans
    (Merge.foldl_grows Merge.puzzle_grows _ _)).trans
      (Merge.foldl_grows Merge.script_grows _ _)

end Merging

end TextAdventure
