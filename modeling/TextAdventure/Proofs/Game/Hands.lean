import TextAdventure.Proofs.Game.Run
import TextAdventure.Proofs.Scene.Consistency

/-
  Where the lists of a session come from.

  A session only learns of what is picked up and put on while
  it is played. A new session holds nothing, and content that
  is added is not looked at for what is in hand. So lists and
  placements agree exactly as long as content brings nothing
  that is carried or worn.

  Main declarations:
    * `Scene.HandsAgree`
    * `Scene.HandsAgree.grows_iff`
    * `Game.handsAgree_fresh_iff`
    * `Game.TakesIn`
    * `Game.handsAgree_iff_isLoose`
-/

namespace TextAdventure

open Relation (ReflTransGen)

------------------------------------------------------------
-- Hands
------------------------------------------------------------

namespace Scene

/-
  The inventory holds exactly what is carried, and the list
  of worn things exactly what is worn.
-/
structure HandsAgree (scene : Scene) : Prop where
  mem_inventory_iff :
    ∀ id, id ∈ scene.session.inventory ↔
      scene.world.Places id .carried
  mem_worn_iff :
    ∀ id, id ∈ scene.session.worn ↔ scene.world.Wears id

namespace HandsAgree

variable {scene : Scene}

/- What is in neither list is neither carried nor worn. -/
theorem isLoose
    (hAgree : scene.HandsAgree)
    {thing : Thing}
    (hMem : thing ∈ scene.world.things)
    (hInventory : thing.id ∉ scene.session.inventory)
    (hWorn : thing.id ∉ scene.session.worn) :
    thing.IsLoose := by
  rw [hAgree.mem_inventory_iff] at hInventory
  rw [hAgree.mem_worn_iff] at hWorn
  refine ⟨?_, ?_⟩
  · intro hCarried
    exact hInventory ⟨thing, hMem, rfl, hCarried⟩
  · rw [← Bool.not_eq_true]
    intro hIsWorn
    exact hWorn ⟨thing, hMem, rfl, hIsWorn⟩

/- What is in a list has an id of the world. -/
theorem mem_ids
    (hAgree : scene.HandsAgree)
    {id : String}
    (hListed :
      id ∈ scene.session.inventory ∨ id ∈ scene.session.worn) :
    id ∈ Catalog.ids scene.world.things := by
  rw [Catalog.mem_ids_iff]
  rcases hListed with hInventory | hWorn
  · rcases (hAgree.mem_inventory_iff id).mp hInventory with
      ⟨thing, hMem, hId, -⟩
    exact ⟨thing, hMem, hId⟩
  · rcases (hAgree.mem_worn_iff id).mp hWorn with
      ⟨thing, hMem, hId, -⟩
    exact ⟨thing, hMem, hId⟩

/-
  A new thing has an id that no list holds, so it has to be
  loose for the lists to stay right.
-/
theorem append_iff
    (hAgree : scene.HandsAgree)
    {world : World}
    {added : List Thing}
    (hThings : world.things = scene.world.things ++ added)
    (hNew :
      ∀ thing ∈ added,
        thing.id ∉ Catalog.ids scene.world.things) :
    ({ scene with world } : Scene).HandsAgree ↔
      ∀ thing ∈ added, thing.IsLoose := by
  constructor
  · intro hAfter thing hMem
    have hUnlisted {listed : Prop}
        (hKnown :
          listed → thing.id ∈ Catalog.ids scene.world.things) :
        ¬ listed :=
      fun hListed => hNew thing hMem (hKnown hListed)
    apply hAfter.isLoose
    · rw [hThings]
      exact List.mem_append_right _ hMem
    · exact hUnlisted (fun hListed =>
        hAgree.mem_ids (Or.inl hListed))
    · exact hUnlisted (fun hListed =>
        hAgree.mem_ids (Or.inr hListed))
  · intro hLoose
    exact
      { mem_inventory_iff := by
          intro id
          rw [World.places_carried_iff_of_append hThings
            hLoose]
          exact hAgree.mem_inventory_iff id
        mem_worn_iff := by
          intro id
          rw [World.wears_iff_of_append hThings hLoose]
          exact hAgree.mem_worn_iff id }

/- Additions keep the lists right if they add loose things. -/
theorem grows_iff
    (hAgree : scene.HandsAgree)
    {may : Thing → Prop}
    {world : World}
    (hGrows :
      ReflTransGen (World.Grows may) scene.world world) :
    ({ scene with world } : Scene).HandsAgree ↔
      ∀ thing ∈ world.things,
        thing.id ∉ Catalog.ids scene.world.things →
          thing.IsLoose := by
  rcases World.things_of_grows hGrows with
    ⟨added, hThings, hAdded⟩
  rw [hAgree.append_iff hThings
    (fun thing hMem => (hAdded thing hMem).2)]
  constructor
  · intro hLoose thing hMem hNew
    rw [hThings] at hMem
    rcases List.mem_append.mp hMem with hOld | hAppended
    · exact absurd (Catalog.mem_ids_iff _ _ |>.mpr
        ⟨thing, hOld, rfl⟩) hNew
    · exact hLoose thing hAppended
  · intro hLoose thing hMem
    apply hLoose thing _ (hAdded thing hMem).2
    rw [hThings]
    exact List.mem_append_right _ hMem

end HandsAgree

end Scene

------------------------------------------------------------
-- Games
------------------------------------------------------------

/- A listing takes nothing out of anybody's hands. -/
theorem Content.placeWhereListed_isLoose_iff
    (rooms : List Room)
    (thing : Thing) :
    (placeWhereListed rooms thing).IsLoose ↔
      thing.IsLoose := by
  refine ⟨?_, fun hLoose => hLoose.placeWhereListed rooms⟩
  unfold placeWhereListed
  split
  · rename_i room hNowhere hListing
    rintro ⟨-, hWorn⟩
    exact ⟨by simp [hNowhere], hWorn⟩
  · exact id

namespace Game

/- A new session holds nothing, so nothing may be in hand. -/
theorem handsAgree_fresh_iff
    (settings : Settings)
    (content : Content)
    (id : SessionId) :
    (fresh settings content id).scene.HandsAgree ↔
      ∀ thing ∈ content.things, thing.IsLoose := by
  have hThings :
      (fresh settings content id).scene.world.things =
        content.things.map
          (Content.placeWhereListed content.rooms) :=
    World.ofContent_things content
  constructor
  · intro hAgree thing hMem
    rw [← Content.placeWhereListed_isLoose_iff content.rooms]
    apply hAgree.isLoose
    · rw [hThings]
      exact List.mem_map_of_mem hMem
    · exact List.not_mem_nil
    · exact List.not_mem_nil
  · intro hLoose
    have hPlaced :
        ∀ thing ∈
            (fresh settings content id).scene.world.things,
          thing.IsLoose := by
      intro placed hMem
      rw [hThings] at hMem
      rcases List.mem_map.mp hMem with ⟨thing, hThing, rfl⟩
      exact (hLoose thing hThing).placeWhereListed
        content.rooms
    exact
      { mem_inventory_iff := by
          intro id
          refine iff_of_false List.not_mem_nil ?_
          rintro ⟨thing, hMem, -, hCarried⟩
          exact (hPlaced thing hMem).1 hCarried
        mem_worn_iff := by
          intro id
          refine iff_of_false List.not_mem_nil ?_
          rintro ⟨thing, hMem, -, hWorn⟩
          rw [(hPlaced thing hMem).2] at hWorn
          simp at hWorn }

/-
  A game right after things came into it: with the content as
  it was started, alone, or with content that was merged.
  Before that, lists and placements agreed.
-/
inductive TakesIn : List Thing → Game → Prop where
| start
    {settings : Settings}
    {disk : Disk}
    {id : SessionId}
    {game : Game}
    (hStart : (start settings disk id).value = .ok game) :
    TakesIn (settings.content disk).things game
| add
    {game after : Game}
    (thing : Thing)
    (hAgree : game.scene.HandsAgree)
    (hAdd : game.addThing thing = .ok (some after)) :
    TakesIn [thing] after
| merge
    {game : Game}
    (content : Content)
    (hAgree : game.scene.HandsAgree) :
    TakesIn
      ((game.merge content).value.1.world.things.filter
        (fun thing => !Catalog.has thing.id game.world.things))
      (game.merge content).value.1

/-
  Lists and placements agree after things came into a game
  exactly if none of them was in hand.
-/
theorem handsAgree_iff_isLoose
    {things : List Thing}
    {game : Game}
    (hTakesIn : TakesIn things game) :
    game.scene.HandsAgree ↔
      ∀ thing ∈ things, thing.IsLoose := by
  cases hTakesIn with
  | start hStart =>
      rcases start_eq_ok_iff.mp hStart with ⟨-, rfl⟩
      exact handsAgree_fresh_iff _ _ _
  | add thing hAgree hAdd =>
      rcases addThing_eq_ok_some_iff.mp hAdd with
        ⟨world, hWorld, rfl⟩
      rcases World.addThing_eq_ok_some_iff.mp hWorld with
        ⟨hNew, -, rfl⟩
      apply hAgree.append_iff rfl
      intro other hOther
      rw [List.mem_singleton] at hOther
      rw [hOther]
      exact (Catalog.has_eq_false_iff _ _).mp hNew
  | @merge before content hAgree =>
      have hGrows :=
        hAgree.grows_iff
          (World.merge_grows before.world content)
      refine hGrows.trans ?_
      simp only [List.mem_filter, Bool.not_eq_true',
        Catalog.has_eq_false_iff, and_imp]
      rfl

/- An acorn that is in hand from the beginning. -/
def heldAcorn : Thing where
  id := "acorn"
  name := "acorn"
  placement := .carried

/-
  The built-in content puts nothing in hand. With the acorn,
  no matter how it comes, the inventory misses something.
-/
theorem handsAgree_until_heldAcorn :
    let first := fresh {} .embedded ⟨0⟩
    let merged := (first.merge { things := [heldAcorn] }).value.1
    (start {} (fun _ => .nothing) ⟨0⟩).value = .ok first ∧
      first.scene.HandsAgree ∧
      (∃ after, first.addThing heldAcorn = .ok (some after) ∧
        ¬ after.scene.HandsAgree) ∧
      ¬ merged.scene.HandsAgree := by
  intro first merged
  have hStart :
      (start {} (fun _ => .nothing) ⟨0⟩).value = .ok first :=
    start_eq_ok_iff.mpr ⟨by rfl, rfl⟩
  have hLoose :
      ∀ thing ∈ Content.embedded.things, thing.IsLoose := by
    decide +kernel
  have hHeld : ¬ heldAcorn.IsLoose := by decide
  have hNew :
      heldAcorn.id ∉ Catalog.ids first.world.things := by
    decide +kernel
  have hMerged :
      heldAcorn ∈ merged.world.things.filter (fun thing =>
        !Catalog.has thing.id first.world.things) := by
    decide +kernel
  have hAgree : first.scene.HandsAgree :=
    (handsAgree_iff_isLoose (.start hStart)).mpr hLoose
  have hAdd :=
    World.addThing_eq_ok_some_iff.mpr
      ⟨(Catalog.has_eq_false_iff _ _).mpr hNew, trivial, rfl⟩
  refine ⟨hStart, hAgree, ?_, ?_⟩
  · have hAfter :=
      addThing_eq_ok_some_iff.mpr ⟨_, hAdd, rfl⟩
    refine ⟨_, hAfter, ?_⟩
    rw [handsAgree_iff_isLoose (.add heldAcorn hAgree hAfter)]
    intro hAll
    exact hHeld (hAll heldAcorn List.mem_cons_self)
  · rw [handsAgree_iff_isLoose (.merge _ hAgree)]
    intro hAll
    exact hHeld (hAll heldAcorn hMerged)

end Game

end TextAdventure
