import TextAdventure.Proofs.World.Containment
import TextAdventure.World.Relocation

/-
  Worlds whose parts agree on where everything is.

  A world is coherent if ids differ, every placement names
  what is there, a room lists exactly what is placed in it
  and nothing is inside itself. Only ids, placements and
  listings decide this, and most changes keep all of them.

  Main declarations:
    * `World.IsCoherent`
    * `World.layout`
    * `World.IsCoherent.of_layout_eq`
    * `World.layout_updateThing`
    * `World.unblockExit_eq_ok_iff`
-/

namespace TextAdventure

open Relation (ReflTransGen TransGen)

namespace World

------------------------------------------------------------
-- Where Things Are
------------------------------------------------------------

/- A thing with an id is at a place. -/
def Places
    (world : World)
    (id : String)
    (placement : Placement) : Prop :=
  ∃ thing ∈ world.things,
    thing.id = id ∧ thing.placement = placement

instance
    (world : World)
    (id : String)
    (placement : Placement) :
    Decidable (world.Places id placement) :=
  inferInstanceAs
    (Decidable (∃ thing ∈ world.things,
      thing.id = id ∧ thing.placement = placement))

/- A room lists an id. -/
def Lists (world : World) (room id : String) : Prop :=
  ∃ entry ∈ world.rooms,
    entry.id = room ∧ id ∈ entry.things

/- A thing with an id is worn. -/
def Wears (world : World) (id : String) : Prop :=
  ∃ thing ∈ world.things,
    thing.id = id ∧ thing.isWorn = true

/- What a placement names is there. -/
def Resolves (world : World) : Placement → Prop
| .room room => room ∈ Catalog.ids world.rooms
| .container container =>
    container ∈ Catalog.ids world.things
| .carried => True
| .nowhere => True

/-
  Ids differ, placements name what is there, rooms list what
  is placed in them, and nothing is inside itself.
-/
structure IsCoherent (world : World) : Prop where
  roomIds : (Catalog.ids world.rooms).Nodup
  thingIds : (Catalog.ids world.things).Nodup
  puzzleIds : (Catalog.ids world.puzzles).Nodup
  resolves :
    ∀ id placement, world.Places id placement →
      world.Resolves placement
  listed :
    ∀ room id, world.Lists room id ↔
      world.Places id (.room room)
  acyclic : IsAcyclic world.things

------------------------------------------------------------
-- Lookups
------------------------------------------------------------

section Lookups

variable {world : World}

/- With distinct ids a place is what the look-up says. -/
theorem places_iff
    (hIds : (Catalog.ids world.things).Nodup)
    {id : String}
    {placement : Placement} :
    world.Places id placement ↔
      ∃ thing, world.thing? id = some thing ∧
        thing.placement = placement := by
  constructor
  · rintro ⟨thing, hMem, hId, hPlacement⟩
    exact ⟨thing,
      (Catalog.find?_eq_some_iff hIds).mpr ⟨hMem, hId⟩,
      hPlacement⟩
  · rintro ⟨thing, hFind, hPlacement⟩
    rcases Catalog.find?_some hFind with ⟨hMem, hId⟩
    exact ⟨thing, hMem, hId, hPlacement⟩

theorem wears_iff
    (hIds : (Catalog.ids world.things).Nodup)
    {id : String} :
    world.Wears id ↔
      ∃ thing, world.thing? id = some thing ∧
        thing.isWorn = true := by
  constructor
  · rintro ⟨thing, hMem, hId, hWorn⟩
    exact ⟨thing,
      (Catalog.find?_eq_some_iff hIds).mpr ⟨hMem, hId⟩,
      hWorn⟩
  · rintro ⟨thing, hFind, hWorn⟩
    rcases Catalog.find?_some hFind with ⟨hMem, hId⟩
    exact ⟨thing, hMem, hId, hWorn⟩

/- Being inside a container is being placed in it. -/
theorem inside_iff_places
    (hIds : (Catalog.ids world.things).Nodup)
    {inner outer : String} :
    Inside world.things inner outer ↔
      world.Places inner (.container outer) := by
  rw [inside_iff, places_iff hIds]
  rfl

/- A thing is at one place only. -/
theorem places_unique
    (hIds : (Catalog.ids world.things).Nodup)
    {id : String}
    {left right : Placement}
    (hLeft : world.Places id left)
    (hRight : world.Places id right) :
    left = right := by
  rcases (places_iff hIds).mp hLeft with ⟨one, hOne, rfl⟩
  rcases (places_iff hIds).mp hRight with ⟨two, hTwo, rfl⟩
  rw [hOne] at hTwo
  rw [Option.some.inj hTwo]

theorem isCarried_eq_true_iff
    (hIds : (Catalog.ids world.things).Nodup)
    {id : String} :
    world.isCarried id = true ↔ world.Places id .carried := by
  rw [places_iff hIds]
  unfold isCarried
  cases hFind : world.thing? id <;> simp

theorem isWorn_eq_true_iff
    (hIds : (Catalog.ids world.things).Nodup)
    {id : String} :
    world.isWorn id = true ↔ world.Wears id := by
  rw [wears_iff hIds]
  unfold isWorn
  cases hFind : world.thing? id <;> simp

end Lookups

------------------------------------------------------------
-- Layouts
------------------------------------------------------------

/-
  Where everything is: the listings of the rooms and the
  placements of the things, with the ids of the puzzles.
-/
def layout (world : World) :
    List (String × List String) ×
      List (String × Placement) × List String :=
  (world.rooms.map (fun room => (room.id, room.things)),
    world.things.map (fun thing =>
      (thing.id, thing.placement)),
    Catalog.ids world.puzzles)

section Layout

variable {before after : World}

theorem lists_iff_mem_layout
    (world : World)
    (room id : String) :
    world.Lists room id ↔
      ∃ listing ∈ world.layout.1,
        listing.1 = room ∧ id ∈ listing.2 := by
  simp [Lists, layout]

theorem places_iff_mem_layout
    (world : World)
    (id : String)
    (placement : Placement) :
    world.Places id placement ↔
      (id, placement) ∈ world.layout.2.1 := by
  simp [Places, layout]

theorem ids_rooms_eq_layout (world : World) :
    Catalog.ids world.rooms =
      world.layout.1.map Prod.fst := by
  simp [Catalog.ids, layout, Function.comp_def]

theorem ids_things_eq_layout (world : World) :
    Catalog.ids world.things =
      world.layout.2.1.map Prod.fst := by
  simp [Catalog.ids, layout, Function.comp_def]

theorem ids_rooms_of_layout_eq
    (hLayout : after.layout = before.layout) :
    Catalog.ids after.rooms = Catalog.ids before.rooms := by
  rw [ids_rooms_eq_layout, hLayout, ← ids_rooms_eq_layout]

theorem ids_things_of_layout_eq
    (hLayout : after.layout = before.layout) :
    Catalog.ids after.things = Catalog.ids before.things := by
  rw [ids_things_eq_layout, hLayout, ← ids_things_eq_layout]

theorem places_of_layout_eq
    (hLayout : after.layout = before.layout)
    (id : String)
    (placement : Placement) :
    after.Places id placement ↔
      before.Places id placement := by
  rw [places_iff_mem_layout, hLayout,
    ← places_iff_mem_layout]

theorem lists_of_layout_eq
    (hLayout : after.layout = before.layout)
    (room id : String) :
    after.Lists room id ↔ before.Lists room id := by
  rw [lists_iff_mem_layout, hLayout, ← lists_iff_mem_layout]

/- Each room has been there with the same listing. -/
theorem exists_room_of_layout_eq
    (hLayout : after.layout = before.layout)
    {room : Room}
    (hMem : room ∈ after.rooms) :
    ∃ old ∈ before.rooms,
      old.id = room.id ∧ old.things = room.things := by
  have hListing : (room.id, room.things) ∈ after.layout.1 :=
    List.mem_map.mpr ⟨room, hMem, rfl⟩
  rw [hLayout] at hListing
  rcases List.mem_map.mp hListing with ⟨old, hOld, hSame⟩
  exact ⟨old, hOld, Prod.mk.inj hSame⟩

/- Worlds with the same ids resolve the same placements. -/
theorem resolves_congr
    (hRooms :
      Catalog.ids after.rooms = Catalog.ids before.rooms)
    (hThings :
      Catalog.ids after.things = Catalog.ids before.things)
    (placement : Placement) :
    after.Resolves placement ↔
      before.Resolves placement := by
  cases placement <;> simp [Resolves, hRooms, hThings]

/- Worlds with one layout are coherent together. -/
theorem IsCoherent.of_layout_eq
    (hCoherent : before.IsCoherent)
    (hLayout : after.layout = before.layout) :
    after.IsCoherent where
  roomIds := by
    rw [ids_rooms_of_layout_eq hLayout]
    exact hCoherent.roomIds
  thingIds := by
    rw [ids_things_of_layout_eq hLayout]
    exact hCoherent.thingIds
  puzzleIds := by
    have hPuzzles :
        Catalog.ids after.puzzles =
          Catalog.ids before.puzzles :=
      congrArg (fun layout => layout.2.2) hLayout
    rw [hPuzzles]
    exact hCoherent.puzzleIds
  resolves := by
    intro id placement hPlaces
    rw [resolves_congr (ids_rooms_of_layout_eq hLayout)
      (ids_things_of_layout_eq hLayout)]
    exact hCoherent.resolves id placement
      ((places_of_layout_eq hLayout id placement).mp hPlaces)
  listed := by
    intro room id
    rw [lists_of_layout_eq hLayout,
      places_of_layout_eq hLayout]
    exact hCoherent.listed room id
  acyclic := by
    have hIds : (Catalog.ids after.things).Nodup := by
      rw [ids_things_of_layout_eq hLayout]
      exact hCoherent.thingIds
    apply hCoherent.acyclic.mono
    intro inner outer hInside
    rw [inside_iff_places hIds,
      places_of_layout_eq hLayout] at hInside
    exact (inside_iff_places hCoherent.thingIds).mpr hInside

end Layout

------------------------------------------------------------
-- Changes That Keep The Layout
------------------------------------------------------------

section Keeping

variable (world : World)

@[simp] theorem markChanged_things (id : String) :
    (world.markChanged id).things = world.things := by
  unfold markChanged
  split <;> rfl

@[simp] theorem markChanged_rooms (id : String) :
    (world.markChanged id).rooms = world.rooms := by
  unfold markChanged
  split <;> rfl

@[simp] theorem markChanged_puzzles (id : String) :
    (world.markChanged id).puzzles = world.puzzles := by
  unfold markChanged
  split <;> rfl

@[simp] theorem markChanged_scripts (id : String) :
    (world.markChanged id).scripts = world.scripts := by
  unfold markChanged
  split <;> rfl

@[simp] theorem markChanged_rules (id : String) :
    (world.markChanged id).rules = world.rules := by
  unfold markChanged
  split <;> rfl

theorem mem_markChanged_iff (id other : String) :
    other ∈ (world.markChanged id).changed ↔
      other = id ∨ other ∈ world.changed := by
  unfold markChanged
  split
  · rename_i hKnown
    have hMem : id ∈ world.changed := by simpa using hKnown
    constructor
    · exact Or.inr
    · rintro (rfl | hOther)
      · exact hMem
      · exact hOther
  · simp [or_comm]

/- Changing a thing, as far as the list of things goes. -/
@[simp] theorem updateThing_things
    (id : String)
    (change : Thing → Thing) :
    (world.updateThing id change).things =
      Catalog.update id change world.things := by
  unfold updateThing
  split
  · simp
  · rename_i hNot
    have hHas : Catalog.has id world.things = false := by
      simpa using hNot
    rw [Catalog.update_eq_self hHas]

/- A view of things that a change keeps is kept all over. -/
theorem map_things_updateThing
    {α : Type}
    {view : Thing → α}
    {change : Thing → Thing}
    (hKeeps : ∀ thing, view (change thing) = view thing)
    (id : String) :
    (world.updateThing id change).things.map view =
      world.things.map view := by
  rw [updateThing_things]
  exact Catalog.map_update (fun thing _ => hKeeps thing)
    world.things

theorem thing?_updateThing_self
    {change : Thing → Thing}
    (hId : ∀ thing, (change thing).id = thing.id)
    (id : String) :
    (world.updateThing id change).thing? id =
      (world.thing? id).map change := by
  rw [thing?, updateThing_things]
  exact Catalog.find?_update_self hId world.things

theorem thing?_updateThing_of_ne
    {change : Thing → Thing}
    (hId : ∀ thing, (change thing).id = thing.id)
    {id other : String}
    (hNe : other ≠ id) :
    (world.updateThing id change).thing? other =
      world.thing? other := by
  rw [thing?, updateThing_things]
  exact Catalog.find?_update_of_ne hId hNe world.things

theorem ids_updateThing_things
    {change : Thing → Thing}
    (hId : ∀ thing, (change thing).id = thing.id)
    (id : String) :
    Catalog.ids (world.updateThing id change).things =
      Catalog.ids world.things := by
  rw [updateThing_things]
  exact Catalog.ids_update hId world.things

@[simp] theorem updateThing_rooms
    (id : String)
    (change : Thing → Thing) :
    (world.updateThing id change).rooms = world.rooms := by
  unfold updateThing
  split <;> simp

@[simp] theorem updateThing_puzzles
    (id : String)
    (change : Thing → Thing) :
    (world.updateThing id change).puzzles =
      world.puzzles := by
  unfold updateThing
  split <;> simp

@[simp] theorem updateThing_scripts
    (id : String)
    (change : Thing → Thing) :
    (world.updateThing id change).scripts =
      world.scripts := by
  unfold updateThing
  split <;> simp

@[simp] theorem updateThing_rules
    (id : String)
    (change : Thing → Thing) :
    (world.updateThing id change).rules = world.rules := by
  unfold updateThing
  split <;> simp

theorem layout_updateThing
    {change : Thing → Thing}
    (hId : ∀ thing, (change thing).id = thing.id)
    (hPlacement :
      ∀ thing, (change thing).placement = thing.placement)
    (id : String) :
    (world.updateThing id change).layout = world.layout := by
  have hThings :
      (Catalog.update id change world.things).map
          (fun thing => (thing.id, thing.placement)) =
        world.things.map
          (fun thing => (thing.id, thing.placement)) :=
    Catalog.map_update
      (by intro thing; simp [hId, hPlacement]) world.things
  simp [layout, hThings]

theorem layout_updateRoom
    {change : Room → Room}
    (hId : ∀ room, (change room).id = room.id)
    (hThings : ∀ room, (change room).things = room.things)
    (id : String) :
    (world.updateRoom id change).layout = world.layout := by
  have hRooms :
      (Catalog.update id change world.rooms).map
          (fun room => (room.id, room.things)) =
        world.rooms.map (fun room => (room.id, room.things)) :=
    Catalog.map_update
      (by intro room; simp [hId, hThings]) world.rooms
  simp [layout, updateRoom, hRooms]

theorem layout_visit (room : String) :
    (world.visit room).layout = world.layout :=
  layout_updateRoom world (by simp) (by simp) room

theorem layout_markSolved (puzzle : String) :
    (world.markSolved puzzle).layout = world.layout := by
  have hIds :
      Catalog.ids (world.markSolved puzzle).puzzles =
        Catalog.ids world.puzzles :=
    Catalog.ids_update (by simp) world.puzzles
  unfold layout
  rw [hIds]
  rfl

theorem layout_forgetChanges :
    world.forgetChanges.layout = world.layout := rfl

/- Unblocking an exit changes one room's exits. -/
theorem unblockExit_eq_ok_iff
    {text : String}
    {after : World}
    {blocked : Bool} :
    world.unblockExit text = .ok (after, blocked) ↔
      ∃ key room exit,
        ExitKey.ofText? text = some key ∧
          world.room? key.room = some room ∧
          room.exit? key.direction = some exit ∧
          blocked = exit.blocked ∧
          after = world.updateRoom key.room (fun room =>
            room.updateExit key.direction Exit.unblocked) := by
  unfold unblockExit
  constructor
  · intro hOk
    cases hKey : ExitKey.ofText? text with
    | none => simp [hKey] at hOk
    | some key =>
        cases hRoom : world.room? key.room with
        | none => simp [hKey, hRoom] at hOk
        | some room =>
            cases hExit : room.exit? key.direction with
            | none => simp [hKey, hRoom, hExit] at hOk
            | some exit =>
                simp only [hKey, hRoom, hExit,
                  Except.ok.injEq, Prod.mk.injEq] at hOk
                exact ⟨key, room, exit, rfl, hRoom, hExit,
                  hOk.2.symm, hOk.1.symm⟩
  · rintro ⟨key, room, exit, hKey, hRoom, hExit, rfl, rfl⟩
    simp [hKey, hRoom, hExit]

theorem layout_unblockExit
    {text : String}
    {after : World}
    {blocked : Bool}
    (hOk : world.unblockExit text = .ok (after, blocked)) :
    after.layout = world.layout := by
  rcases (unblockExit_eq_ok_iff world).mp hOk with
    ⟨key, -, -, -, -, -, -, rfl⟩
  apply layout_updateRoom <;> intro room <;> rfl

end Keeping

end World

end TextAdventure
