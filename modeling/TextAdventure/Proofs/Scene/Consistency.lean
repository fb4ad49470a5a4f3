import TextAdventure.Proofs.Distinct
import TextAdventure.Proofs.Scene.Edit
import TextAdventure.Proofs.World.Growth

/-
  Scenes in which world and session agree.

  What is carried and what is worn is told twice: by the
  things of the world and by the lists of the session. Every
  edit of a scene changes both together.

  Main declarations:
    * `Scene.IsConsistent`
    * `Scene.TellsCarried`
    * `Scene.Edit.place_or_layout_eq`
    * `Scene.IsConsistent.edit`
    * `Scene.IsConsistent.edits`
    * `Scene.IsConsistent.grows`
-/

namespace TextAdventure

open Relation (ReflTransGen)

------------------------------------------------------------
-- Worn Things
------------------------------------------------------------

namespace World

variable {world : World}

/- A change that leaves things worn or not, as they are. -/
theorem wears_updateThing_iff
    {change : Thing → Thing}
    (hId : ∀ thing, (change thing).id = thing.id)
    (hWorn : ∀ thing, (change thing).isWorn = thing.isWorn)
    (id other : String) :
    (world.updateThing id change).Wears other ↔
      world.Wears other := by
  have hThings :
      (Catalog.update id change world.things).map
          (fun thing => (thing.id, thing.isWorn)) =
        world.things.map
          (fun thing => (thing.id, thing.isWorn)) :=
    Catalog.map_update
      (by intro thing; simp [hId, hWorn]) world.things
  have hWears :
      ∀ things : List Thing,
        (∃ thing ∈ things,
            thing.id = other ∧ thing.isWorn = true) ↔
          (other, true) ∈
            things.map (fun thing =>
              (thing.id, thing.isWorn)) := by
    intro things
    simp
  unfold Wears
  rw [hWears, hWears, updateThing_things, hThings]

/- Exactly the known thing that is put on or off changes. -/
theorem wears_setWorn_iff
    (hIds : (Catalog.ids world.things).Nodup)
    (id : String)
    (worn : Bool)
    (other : String) :
    (world.updateThing id
        (fun thing => { thing with isWorn := worn })).Wears
          other ↔
      other = id ∧ worn = true ∧
          id ∈ Catalog.ids world.things ∨
        other ≠ id ∧ world.Wears other := by
  simp only [Wears, updateThing_things,
    Catalog.mem_update_iff hIds, Catalog.mem_ids_iff]
  constructor
  · rintro ⟨thing, ⟨old, hOld, hId, rfl⟩ | ⟨hMem, hNe⟩,
      rfl, hWorn⟩
    · exact Or.inl ⟨hId, hWorn, old, hOld, hId⟩
    · exact Or.inr ⟨hNe, thing, hMem, rfl, hWorn⟩
  · rintro (⟨rfl, rfl, old, hOld, hId⟩ |
      ⟨hNe, thing, hMem, rfl, hWorn⟩)
    · exact ⟨_, Or.inl ⟨old, hOld, hId, rfl⟩, hId, rfl⟩
    · exact ⟨thing, Or.inr ⟨hMem, hNe⟩, rfl, hWorn⟩

end World

namespace Thing

@[simp] theorem written_id
    (field? : Option Field)
    (value : Value)
    (thing : Thing) :
    (written field? value thing).id = thing.id :=
  (isSameThing_written field? value thing).id

@[simp] theorem written_placement
    (field? : Option Field)
    (value : Value)
    (thing : Thing) :
    (written field? value thing).placement =
      thing.placement :=
  (isSameThing_written field? value thing).placement

@[simp] theorem written_isWorn
    (field? : Option Field)
    (value : Value)
    (thing : Thing) :
    (written field? value thing).isWorn = thing.isWorn :=
  (isSameThing_written field? value thing).isWorn

/- A thing that is neither carried nor worn. -/
def IsLoose (thing : Thing) : Prop :=
  thing.placement ≠ .carried ∧ thing.isWorn = false

instance : DecidablePred IsLoose :=
  fun _ => inferInstanceAs (Decidable (_ ∧ _))

/- A listing does not put a thing into anybody's hands. -/
theorem placement_placeWhereListed_ne_carried
    {thing : Thing}
    (hAway : thing.placement ≠ .carried)
    (rooms : List Room) :
    (Content.placeWhereListed rooms thing).placement ≠
      .carried := by
  unfold Content.placeWhereListed
  split
  · simp
  · exact hAway

theorem IsLoose.placeWhereListed
    {thing : Thing}
    (hLoose : thing.IsLoose)
    (rooms : List Room) :
    (Content.placeWhereListed rooms thing).IsLoose := by
  refine
    ⟨placement_placeWhereListed_ne_carried hLoose.1 rooms, ?_⟩
  unfold Content.placeWhereListed
  split <;> exact hLoose.2

end Thing

------------------------------------------------------------
-- Consistent Scenes
------------------------------------------------------------

namespace Scene

/-
  The world is coherent; the inventory holds exactly what is
  carried and the list of worn things exactly what is worn,
  each once; and what is worn is carried.
-/
structure IsConsistent (scene : Scene) : Prop where
  coherent : scene.world.IsCoherent
  inventoryNodup : scene.session.inventory.Nodup
  mem_inventory_iff :
    ∀ id, id ∈ scene.session.inventory ↔
      scene.world.Places id .carried
  wornNodup : scene.session.worn.Nodup
  mem_worn_iff :
    ∀ id, id ∈ scene.session.worn ↔ scene.world.Wears id
  carried :
    ∀ id, scene.world.Wears id →
      scene.world.Places id .carried

variable {may : Value → Prop}
variable {before after : Scene}

/- The lists fit any world in which the same is in hand. -/
theorem IsConsistent.of_hands_iff
    (hConsistent : before.IsConsistent)
    (hCoherent : after.world.IsCoherent)
    (hCarried :
      ∀ id, after.world.Places id .carried ↔
        before.world.Places id .carried)
    (hWears :
      ∀ id, after.world.Wears id ↔ before.world.Wears id)
    (hInventory :
      after.session.inventory = before.session.inventory)
    (hWorn : after.session.worn = before.session.worn) :
    after.IsConsistent where
  coherent := hCoherent
  inventoryNodup := by
    rw [hInventory]
    exact hConsistent.inventoryNodup
  mem_inventory_iff := by
    intro id
    rw [hInventory, hCarried]
    exact hConsistent.mem_inventory_iff id
  wornNodup := by
    rw [hWorn]
    exact hConsistent.wornNodup
  mem_worn_iff := by
    intro id
    rw [hWorn, hWears]
    exact hConsistent.mem_worn_iff id
  carried := by
    intro id
    rw [hWears, hCarried]
    exact hConsistent.carried id

/- Where nothing is moved, put on or taken off. -/
theorem IsConsistent.of_layout_eq
    (hConsistent : before.IsConsistent)
    (hLayout : after.world.layout = before.world.layout)
    (hWears :
      ∀ id, after.world.Wears id ↔ before.world.Wears id)
    (hInventory :
      after.session.inventory = before.session.inventory)
    (hWorn : after.session.worn = before.session.worn) :
    after.IsConsistent := by
  have hCoherent : after.world.IsCoherent :=
    hConsistent.coherent.of_layout_eq hLayout
  have hCarried :
      ∀ id : String,
        after.world.Places id .carried ↔
          before.world.Places id .carried := by
    intro id
    exact World.places_of_layout_eq hLayout id .carried
  exact hConsistent.of_hands_iff hCoherent hCarried hWears
    hInventory hWorn

------------------------------------------------------------
-- Moving Things
------------------------------------------------------------

@[simp] theorem afterUnworn_inventory
    (scene : Scene)
    (thing : String) :
    (scene.afterUnworn thing).session.inventory =
      scene.session.inventory := by
  unfold afterUnworn
  split <;> rfl

@[simp] theorem afterUnworn_worn
    (scene : Scene)
    (thing : String) :
    (scene.afterUnworn thing).session.worn =
      scene.session.worn := by
  unfold afterUnworn
  split <;> rfl

/- What is picked up is added to the inventory. -/
theorem session_of_place_carried
    {id : String}
    (hPlace : before.place id .carried = .ok after) :
    after.session = before.session.addItem id := by
  unfold place at hPlace
  split at hPlace
  · simp at hPlace
  · simp only [Placement.isCarried, if_true,
      Except.ok.injEq] at hPlace
    rw [← hPlace]

/- What goes elsewhere leaves both lists. -/
theorem lists_of_place
    {id : String}
    {target : Placement}
    (hTarget : target ≠ .carried)
    (hPlace : before.place id target = .ok after) :
    after.session.inventory =
        before.session.inventory.filter (· != id) ∧
      after.session.worn =
        before.session.worn.filter (· != id) := by
  have hElsewhere : target.isCarried = false := by
    cases target <;> simp_all [Placement.isCarried]
  unfold place at hPlace
  split at hPlace
  · simp at hPlace
  · simp only [hElsewhere, Bool.false_eq_true,
      if_false] at hPlace
    split at hPlace
    · cases hPlace
      simp [Session.removeItem]
    · cases hPlace
      exact ⟨rfl, rfl⟩

theorem addItem_inventory
    (session : Session)
    (id : String) :
    (session.addItem id).inventory =
      gather session.inventory [id] := by
  by_cases hMem : id ∈ session.inventory <;>
    simp [Session.addItem, Session.hasItem, gather, hMem]

@[simp] theorem addItem_worn
    (session : Session)
    (id : String) :
    (session.addItem id).worn = session.worn := by
  unfold Session.addItem
  split <;> rfl

/- The inventory has a thing exactly if it is carried. -/
def TellsCarried (scene : Scene) (id : String) : Prop :=
  id ∈ scene.session.inventory ↔
    scene.world.Places id .carried

theorem TellsCarried.of_layout_eq
    {id : String}
    (hTells : before.TellsCarried id)
    (hLayout : after.world.layout = before.world.layout)
    (hInventory :
      after.session.inventory = before.session.inventory) :
    after.TellsCarried id := by
  unfold TellsCarried
  rw [hInventory, World.places_of_layout_eq hLayout]
  exact hTells

/- A move is told, and of other things the same is told. -/
theorem TellsCarried.place
    {id : String}
    (hTells : before.TellsCarried id)
    (hIds : (Catalog.ids before.world.things).Nodup)
    {moved : String}
    {target : Placement}
    (hPlace : before.place moved target = .ok after) :
    after.TellsCarried id := by
  rcases relocate_of_place hPlace with ⟨old, hRelocate⟩
  unfold TellsCarried at hTells ⊢
  rw [World.places_relocate_iff hIds hRelocate]
  by_cases hTarget : target = .carried
  · subst hTarget
    rw [session_of_place_carried hPlace, addItem_inventory,
      mem_gather_iff, hTells]
    by_cases hSame : id = moved <;> simp [hSame]
  · rw [(lists_of_place hTarget hPlace).1, List.mem_filter,
      hTells]
    simp [Ne.symm hTarget, and_comm]

theorem nodup_inventory_of_place
    (hNodup : before.session.inventory.Nodup)
    {id : String}
    {target : Placement}
    (hPlace : before.place id target = .ok after) :
    after.session.inventory.Nodup := by
  by_cases hTarget : target = .carried
  · subst hTarget
    rw [session_of_place_carried hPlace, addItem_inventory]
    exact nodup_gather hNodup [id]
  · rw [(lists_of_place hTarget hPlace).1]
    exact hNodup.filter _

/- The worn list follows a move as the worn things do. -/
theorem worn_of_place
    (hConsistent : before.IsConsistent)
    {id : String}
    {target : Placement}
    (hPlace : before.place id target = .ok after) :
    after.session.worn.Nodup ∧
      ∀ other, other ∈ after.session.worn ↔
        after.world.Wears other := by
  rcases relocate_of_place hPlace with ⟨old, hRelocate⟩
  have hWears (other : String) :
      after.world.Wears other ↔
        before.world.Wears other ∧
          (other = id → target = .carried) :=
    World.wears_relocate_iff hConsistent.coherent.thingIds
      hRelocate
  by_cases hTarget : target = .carried
  · subst hTarget
    rw [session_of_place_carried hPlace, addItem_worn]
    refine ⟨hConsistent.wornNodup, ?_⟩
    intro other
    rw [hWears, hConsistent.mem_worn_iff]
    simp
  · rw [(lists_of_place hTarget hPlace).2]
    refine ⟨hConsistent.wornNodup.filter _, ?_⟩
    intro other
    rw [List.mem_filter, hWears, hConsistent.mem_worn_iff]
    simp [hTarget]

/- What is worn after a move is carried after it. -/
theorem carried_of_wears_place
    (hConsistent : before.IsConsistent)
    {id other : String}
    {target : Placement}
    (hPlace : before.place id target = .ok after)
    (hWears : after.world.Wears other) :
    after.world.Places other .carried := by
  rcases relocate_of_place hPlace with ⟨old, hRelocate⟩
  have hIds := hConsistent.coherent.thingIds
  rcases (World.wears_relocate_iff hIds hRelocate).mp
      hWears with ⟨hBefore, hStays⟩
  rw [World.places_relocate_iff hIds hRelocate]
  by_cases hSame : other = id
  · exact Or.inl ⟨hSame, (hStays hSame).symm⟩
  · exact Or.inr ⟨hSame, hConsistent.carried other hBefore⟩

/- An accepted move keeps world and lists in step. -/
theorem IsConsistent.place
    (hConsistent : before.IsConsistent)
    {id : String}
    {target : Placement}
    (hPlace : before.place id target = .ok after) :
    after.IsConsistent := by
  rcases relocate_of_place hPlace with ⟨old, hRelocate⟩
  have hWorn := worn_of_place hConsistent hPlace
  exact
    { coherent := hConsistent.coherent.relocate hRelocate
      inventoryNodup :=
        nodup_inventory_of_place hConsistent.inventoryNodup
          hPlace
      mem_inventory_iff := fun other =>
        TellsCarried.place
          (hConsistent.mem_inventory_iff other)
          hConsistent.coherent.thingIds hPlace
      wornNodup := hWorn.1
      mem_worn_iff := hWorn.2
      carried := fun _ hWears =>
        carried_of_wears_place hConsistent hPlace hWears }

------------------------------------------------------------
-- Putting On And Taking Off
------------------------------------------------------------

theorem putOn_worn
    (session : Session)
    (id : String) :
    (session.putOn id).worn = gather session.worn [id] := by
  by_cases hMem : id ∈ session.worn <;>
    simp [Session.putOn, Session.isWearing, gather, hMem]

@[simp] theorem putOn_inventory
    (session : Session)
    (id : String) :
    (session.putOn id).inventory = session.inventory := by
  unfold Session.putOn
  split <;> rfl

@[simp] theorem recordOpened_inventory
    (session : Session)
    (exit : String) :
    (session.recordOpened exit).inventory =
      session.inventory := by
  unfold Session.recordOpened
  split <;> rfl

@[simp] theorem recordOpened_worn
    (session : Session)
    (exit : String) :
    (session.recordOpened exit).worn = session.worn := by
  unfold Session.recordOpened
  split <;> rfl

@[simp] theorem recordVisit_inventory
    (session : Session)
    (room : String) :
    (session.recordVisit room).inventory =
      session.inventory := by
  unfold Session.recordVisit
  split <;> rfl

@[simp] theorem recordVisit_worn
    (session : Session)
    (room : String) :
    (session.recordVisit room).worn = session.worn := by
  unfold Session.recordVisit
  split <;> rfl

theorem layout_setWorn
    (scene : Scene)
    (id : String)
    (worn : Bool) :
    (scene.setWorn id worn).world.layout =
      scene.world.layout := by
  rw [setWorn_world]
  exact World.layout_updateThing _ (by simp) (by simp) id

/- What is carried can be put on. -/
theorem IsConsistent.putOn
    (hConsistent : before.IsConsistent)
    {id : String}
    (hCarried : before.world.isCarried id = true) :
    (before.setWorn id true).IsConsistent := by
  have hIds := hConsistent.coherent.thingIds
  have hPlaced : before.world.Places id .carried :=
    (World.isCarried_eq_true_iff hIds).mp hCarried
  have hKnown : id ∈ Catalog.ids before.world.things := by
    rcases hPlaced with ⟨thing, hMem, hId, -⟩
    exact (Catalog.mem_ids_iff _ _).mpr ⟨thing, hMem, hId⟩
  have hLayout := layout_setWorn before id true
  have hSession :
      (before.setWorn id true).session =
        before.session.putOn id :=
    rfl
  have hWears :
      ∀ other : String,
        (before.setWorn id true).world.Wears other ↔
          before.world.Wears other ∨ other = id := by
    intro other
    rw [setWorn_world, World.wears_setWorn_iff hIds]
    by_cases hSame : other = id <;> simp [hSame, hKnown]
  exact
    { coherent := hConsistent.coherent.of_layout_eq hLayout
      inventoryNodup := by
        rw [hSession, putOn_inventory]
        exact hConsistent.inventoryNodup
      mem_inventory_iff := by
        intro other
        rw [hSession, putOn_inventory,
          World.places_of_layout_eq hLayout]
        exact hConsistent.mem_inventory_iff other
      wornNodup := by
        rw [hSession, putOn_worn]
        exact nodup_gather hConsistent.wornNodup [id]
      mem_worn_iff := by
        intro other
        rw [hSession, putOn_worn, mem_gather_iff, hWears,
          hConsistent.mem_worn_iff, List.mem_singleton]
      carried := by
        intro other hWorn
        rw [World.places_of_layout_eq hLayout]
        rcases (hWears other).mp hWorn with hBefore | rfl
        · exact hConsistent.carried other hBefore
        · exact hPlaced }

/- Anything can be taken off. -/
theorem IsConsistent.takeOff
    (hConsistent : before.IsConsistent)
    (id : String) :
    (before.setWorn id false).IsConsistent := by
  have hIds := hConsistent.coherent.thingIds
  have hLayout := layout_setWorn before id false
  have hInventory :
      (before.setWorn id false).session.inventory =
        before.session.inventory := by
    simp [setWorn, updateThing, Session.takeOff]
  have hWorn :
      (before.setWorn id false).session.worn =
        before.session.worn.filter (· != id) := by
    simp [setWorn, updateThing, Session.takeOff]
  have hWears :
      ∀ other : String,
        (before.setWorn id false).world.Wears other ↔
          other ≠ id ∧ before.world.Wears other := by
    intro other
    rw [setWorn_world, World.wears_setWorn_iff hIds]
    simp
  exact
    { coherent := hConsistent.coherent.of_layout_eq hLayout
      inventoryNodup := by
        rw [hInventory]
        exact hConsistent.inventoryNodup
      mem_inventory_iff := by
        intro other
        rw [hInventory, World.places_of_layout_eq hLayout]
        exact hConsistent.mem_inventory_iff other
      wornNodup := by
        rw [hWorn]
        exact hConsistent.wornNodup.filter _
      mem_worn_iff := by
        intro other
        rw [hWorn, List.mem_filter, hWears,
          hConsistent.mem_worn_iff]
        simp [and_comm]
      carried := by
        intro other hAfter
        rw [World.places_of_layout_eq hLayout]
        exact hConsistent.carried other
          ((hWears other).mp hAfter).2 }

------------------------------------------------------------
-- Edits
------------------------------------------------------------

/- Every edit keeps the world coherent, whatever is listed. -/
theorem coherent_edit
    (hCoherent : before.world.IsCoherent)
    (hEdit : Edit may before after) :
    after.world.IsCoherent := by
  cases hEdit with
  | place id target hPlace =>
      rcases relocate_of_place hPlace with ⟨old, hRelocate⟩
      exact hCoherent.relocate hRelocate
  | putOn id | takeOff id =>
      exact hCoherent.of_layout_eq (layout_setWorn _ id _)
  | write id =>
      exact hCoherent.of_layout_eq
        (World.layout_updateThing _ (by simp) (by simp) id)
  | unlock exit hUnblock =>
      exact hCoherent.of_layout_eq
        (World.layout_unblockExit _ hUnblock)
  | enter room =>
      exact hCoherent.of_layout_eq (World.layout_visit _ room)
  | flag | condition => exact hCoherent
  | solve puzzle =>
      exact hCoherent.of_layout_eq
        (World.layout_markSolved _ puzzle)

theorem coherent_edits
    (hCoherent : before.world.IsCoherent)
    (hEdits : Edits may before after) :
    after.world.IsCoherent := by
  induction hEdits with
  | refl => exact hCoherent
  | tail _ hLast ih => exact coherent_edit ih hLast

/- An edit moves a thing, or nothing changes hands in it. -/
theorem Edit.place_or_layout_eq
    (hEdit : Edit may before after) :
    (∃ id target, before.place id target = .ok after) ∨
      after.world.layout = before.world.layout ∧
        after.session.inventory =
          before.session.inventory := by
  cases hEdit with
  | place id target hPlace =>
      exact Or.inl ⟨id, target, hPlace⟩
  | putOn id hCarried =>
      exact Or.inr ⟨layout_setWorn _ id true,
        putOn_inventory _ id⟩
  | takeOff id =>
      exact Or.inr ⟨layout_setWorn _ id false,
        by simp [setWorn, updateThing, Session.takeOff]⟩
  | write id field? value hMay =>
      exact Or.inr
        ⟨World.layout_updateThing _ (by simp) (by simp) id,
          rfl⟩
  | unlock exit hUnblock =>
      exact Or.inr ⟨World.layout_unblockExit _ hUnblock,
        recordOpened_inventory _ exit⟩
  | enter room =>
      exact Or.inr ⟨World.layout_visit _ room,
        by simp [enterRoom]⟩
  | flag | condition => exact Or.inr ⟨rfl, rfl⟩
  | solve puzzle =>
      exact Or.inr ⟨World.layout_markSolved _ puzzle, rfl⟩

/- Edits keep the inventory free of repetitions. -/
theorem Edits.nodup_inventory
    (hEdits : Edits may before after)
    (hNodup : before.session.inventory.Nodup) :
    after.session.inventory.Nodup := by
  induction hEdits with
  | refl => exact hNodup
  | tail _ hLast ih =>
      rcases hLast.place_or_layout_eq with
        ⟨id, target, hPlace⟩ | ⟨-, hInventory⟩
      · exact nodup_inventory_of_place ih hPlace
      · rw [hInventory]
        exact ih

/- And it tells of a thing what it told before them. -/
theorem TellsCarried.edits
    {id : String}
    (hTells : before.TellsCarried id)
    (hCoherent : before.world.IsCoherent)
    (hEdits : Edits may before after) :
    after.TellsCarried id := by
  induction hEdits with
  | refl => exact hTells
  | tail hFirst hLast ih =>
      rcases hLast.place_or_layout_eq with
        ⟨moved, target, hPlace⟩ | ⟨hLayout, hInventory⟩
      · exact ih.place
          (coherent_edits hCoherent hFirst).thingIds hPlace
      · exact ih.of_layout_eq hLayout hInventory

/- Every edit keeps world and session in agreement. -/
theorem IsConsistent.edit
    (hConsistent : before.IsConsistent)
    (hEdit : Edit may before after) :
    after.IsConsistent := by
  cases hEdit with
  | place id target hPlace => exact hConsistent.place hPlace
  | putOn id hCarried => exact hConsistent.putOn hCarried
  | takeOff id => exact hConsistent.takeOff id
  | write id field? value hMay =>
      exact hConsistent.of_layout_eq
        (World.layout_updateThing _ (by simp) (by simp) id)
        (World.wears_updateThing_iff (by simp) (by simp) id)
        rfl rfl
  | unlock exit hUnblock =>
      have hLayout := World.layout_unblockExit _ hUnblock
      rcases (World.unblockExit_eq_ok_iff _).mp hUnblock with
        ⟨key, -, -, -, -, -, -, rfl⟩
      exact hConsistent.of_layout_eq hLayout
        (fun _ => Iff.rfl) (by simp) (by simp)
  | enter room =>
      exact hConsistent.of_layout_eq
        (World.layout_visit _ room) (fun _ => Iff.rfl)
        (by simp [enterRoom]) (by simp [enterRoom])
  | flag flag value hMay =>
      exact hConsistent.of_layout_eq rfl (fun _ => Iff.rfl)
        rfl rfl
  | condition state suspended =>
      exact hConsistent.of_layout_eq rfl (fun _ => Iff.rfl)
        rfl rfl
  | solve puzzle =>
      exact hConsistent.of_layout_eq
        (World.layout_markSolved _ puzzle) (fun _ => Iff.rfl)
        rfl rfl

theorem IsConsistent.edits
    (hConsistent : before.IsConsistent)
    (hEdits : Edits may before after) :
    after.IsConsistent := by
  induction hEdits with
  | refl => exact hConsistent
  | tail _ hLast ih => exact ih.edit hLast

end Scene

------------------------------------------------------------
-- Growing Worlds
------------------------------------------------------------

namespace World

variable {before after : World}
variable {added : List Thing}

/- New things that are loose put nothing in hand. -/
theorem places_carried_iff_of_append
    (hThings : after.things = before.things ++ added)
    (hLoose : ∀ thing ∈ added, thing.IsLoose)
    (id : String) :
    after.Places id .carried ↔ before.Places id .carried := by
  unfold Places
  rw [hThings]
  constructor
  · rintro ⟨thing, hMem, hId, hPlacement⟩
    rcases List.mem_append.mp hMem with hOld | hAppended
    · exact ⟨thing, hOld, hId, hPlacement⟩
    · exact absurd hPlacement (hLoose thing hAppended).1
  · rintro ⟨thing, hMem, hRest⟩
    exact ⟨thing, List.mem_append_left _ hMem, hRest⟩

theorem wears_iff_of_append
    (hThings : after.things = before.things ++ added)
    (hLoose : ∀ thing ∈ added, thing.IsLoose)
    (id : String) :
    after.Wears id ↔ before.Wears id := by
  unfold Wears
  rw [hThings]
  constructor
  · rintro ⟨thing, hMem, hId, hWorn⟩
    rcases List.mem_append.mp hMem with hOld | hAppended
    · exact ⟨thing, hOld, hId, hWorn⟩
    · rw [(hLoose thing hAppended).2] at hWorn
      simp at hWorn
  · rintro ⟨thing, hMem, hRest⟩
    exact ⟨thing, List.mem_append_left _ hMem, hRest⟩

end World

namespace Scene

variable {before : Scene}

/- New things that are loose keep the lists right. -/
theorem IsConsistent.grows
    (hConsistent : before.IsConsistent)
    {mayAdd : Thing → Prop}
    {world : World}
    (hGrows :
      ReflTransGen (World.Grows mayAdd) before.world world)
    (hLoose :
      ∀ thing, mayAdd thing →
        thing.id ∉ Catalog.ids before.world.things →
          thing.IsLoose) :
    ({ before with world } : Scene).IsConsistent := by
  rcases World.things_of_grows hGrows with
    ⟨added, hThings, hAdded⟩
  have hNew :
      ∀ thing ∈ added, thing.IsLoose := by
    intro thing hMem
    exact hLoose thing (hAdded thing hMem).1
      (hAdded thing hMem).2
  exact hConsistent.of_hands_iff
    (hConsistent.coherent.grows hGrows)
    (World.places_carried_iff_of_append hThings hNew)
    (World.wears_iff_of_append hThings hNew) rfl rfl

end Scene

end TextAdventure
