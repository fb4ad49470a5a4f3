import Mathlib.Data.List.Forall2
import Mathlib.Data.List.Nodup
import TextAdventure.Catalog

/-
  Catalogs in which no id is given twice.

  Looking up is then membership, and changing the entity of
  an id is a map over the list.

  Main declarations:
    * `Catalog.map_update`
    * `Catalog.exists_split_of_find?`
    * `Catalog.mem_update_of_mem_of_ne`
    * `Catalog.find?_eq_some_iff`
    * `Catalog.update_eq_map`
    * `Catalog.update_eq_self`
    * `Catalog.mem_update_iff`
    * `Catalog.find?_map`
    * `Catalog.map_eq_of_find?`
    * `Catalog.forall₂_update`
-/

namespace TextAdventure

namespace Catalog

variable {α β : Type} [Identified α]

------------------------------------------------------------
-- Listed Ids
------------------------------------------------------------

theorem mem_ids_iff
    (id : String)
    (entities : List α) :
    id ∈ ids entities ↔
      ∃ entity ∈ entities, Identified.idOf entity = id :=
  List.mem_map

theorem has_eq_true_iff_mem_ids
    (id : String)
    (entities : List α) :
    has id entities = true ↔ id ∈ ids entities := by
  rw [has_iff, mem_ids_iff]

theorem has_eq_false_iff
    (id : String)
    (entities : List α) :
    has id entities = false ↔ id ∉ ids entities := by
  rw [← has_eq_true_iff_mem_ids, Bool.not_eq_true]

/- An entity of the list has an id of the list. -/
theorem has_of_mem
    {entity : α}
    {entities : List α}
    (hMem : entity ∈ entities) :
    has (Identified.idOf entity) entities = true :=
  (has_iff _ _).mpr ⟨entity, hMem, rfl⟩

/- What is found has an id of the list. -/
theorem has_of_find?
    {id : String}
    {entity : α}
    {entities : List α}
    (hFind : find? id entities = some entity) :
    has id entities = true := by
  rw [← find?_isSome, hFind]
  rfl

/- An id of the list stands for something. -/
theorem exists_find?_of_has
    {id : String}
    {entities : List α}
    (hHas : has id entities = true) :
    ∃ entity, find? id entities = some entity := by
  rw [← find?_isSome] at hHas
  exact Option.isSome_iff_exists.mp hHas

/- A change that keeps ids keeps the list of ids. -/
theorem ids_map
    {change : α → α}
    (hKeeps : ∀ entity,
      Identified.idOf (change entity) =
        Identified.idOf entity)
    (entities : List α) :
    ids (entities.map change) = ids entities := by
  simp [ids, hKeeps]

/-
  A view that a change keeps where it applies is kept all
  over the list.
-/
theorem map_update
    {id : String}
    {change : α → α}
    {view : α → β}
    (hKeeps :
      ∀ entity, Identified.idOf entity = id →
        view (change entity) = view entity)
    (entities : List α) :
    (update id change entities).map view =
      entities.map view := by
  induction entities with
  | nil => rfl
  | cons entity rest ih =>
      unfold update
      split
      · simp [ih]
      · split
        · rename_i hId
          simp [hKeeps entity hId]
        · rfl

/- A change of one entity goes along with one all over. -/
theorem map_update_comm
    {id : String}
    {change other view : α → α}
    (hKeeps : ∀ entity,
      Identified.idOf (view entity) = Identified.idOf entity)
    (hComm : ∀ entity,
      view (change entity) = other (view entity))
    (entities : List α) :
    (update id change entities).map view =
      update id other (entities.map view) := by
  induction entities with
  | nil => rfl
  | cons entity rest ih =>
      have hHas : has id (rest.map view) = has id rest :=
        has_congr (ids_map hKeeps rest) id
      simp only [update, List.map_cons, hHas, hKeeps]
      split
      · rw [List.map_cons, ih]
      · split
        · rw [List.map_cons, hComm]
        · rfl

/- A change is made at one place of the list. -/
theorem exists_split_of_find?
    {id : String}
    {entity : α}
    {entities : List α}
    (hFind : find? id entities = some entity) :
    ∃ front back,
      entities = front ++ entity :: back ∧
        ∀ change, update id change entities =
          front ++ change entity :: back := by
  induction entities with
  | nil => simp [find?] at hFind
  | cons first rest ih =>
      cases hRest : find? id rest with
      | some found =>
          simp only [find?, hRest] at hFind
          rcases ih (hRest.trans hFind) with
            ⟨front, back, hSplit, hUpdate⟩
          refine ⟨first :: front, back, by simp [hSplit], ?_⟩
          intro change
          have hHas := has_of_find? hRest
          simp [update, hHas, hUpdate change]
      | none =>
          have hHas := (find?_eq_none_iff id rest).mp hRest
          by_cases hId : Identified.idOf first = id
          · simp only [find?, hRest, hId, if_true,
              Option.some.injEq] at hFind
            subst hFind
            exact ⟨[], rest, rfl, by simp [update, hHas, hId]⟩
          · simp [find?, hRest, hId] at hFind

/- Two changes of one entity are one change of it. -/
theorem update_update
    {id : String}
    {first second : α → α}
    (hKeeps : ∀ entity,
      Identified.idOf (first entity) = Identified.idOf entity)
    (entities : List α) :
    update id second (update id first entities) =
      update id (second ∘ first) entities := by
  induction entities with
  | nil => rfl
  | cons entity rest ih =>
      have hHas :
          has id (update id first rest) = has id rest :=
        has_update hKeeps id rest
      cases hRest : has id rest with
      | true => simp [update, hRest, hHas, ih]
      | false =>
          by_cases hId : Identified.idOf entity = id
          · simp [update, hRest, hId, hKeeps]
          · simp [update, hRest, hId]

/- What all entities pass and a change keeps, all pass. -/
theorem forall_mem_update
    {id : String}
    {change : α → α}
    {test : α → Prop}
    {entities : List α}
    (hAll : ∀ entity ∈ entities, test entity)
    (hKeeps : ∀ entity, test entity → test (change entity)) :
    ∀ entity ∈ update id change entities, test entity := by
  induction entities with
  | nil => exact hAll
  | cons entity rest ih =>
      rcases List.forall_mem_cons.mp hAll with
        ⟨hFirst, hRest⟩
      unfold update
      split
      · exact List.forall_mem_cons.mpr ⟨hFirst, ih hRest⟩
      · split
        · exact List.forall_mem_cons.mpr
            ⟨hKeeps entity hFirst, hRest⟩
        · exact hAll

/- A change leaves every entity of another id in its place. -/
theorem mem_update_of_mem_of_ne
    {id : String}
    {change : α → α}
    {entity : α}
    {entities : List α}
    (hNe : Identified.idOf entity ≠ id)
    (hMem : entity ∈ entities) :
    entity ∈ update id change entities := by
  induction entities with
  | nil => exact hMem
  | cons first rest ih =>
      unfold update
      split
      · rcases List.mem_cons.mp hMem with rfl | hRest
        · exact List.mem_cons_self
        · exact List.mem_cons_of_mem _ (ih hRest)
      · split
        · rename_i hId
          rcases List.mem_cons.mp hMem with rfl | hRest
          · exact absurd hId hNe
          · exact List.mem_cons_of_mem _ hRest
        · exact hMem

/- A new id keeps the ids distinct. -/
theorem nodup_ids_append
    {entities : List α}
    {entity : α}
    (hNodup : (ids entities).Nodup)
    (hNew : has (Identified.idOf entity) entities = false) :
    (ids (entities ++ [entity])).Nodup := by
  have hNotMem := (has_eq_false_iff _ _).mp hNew
  have hAppend :
      ids (entities ++ [entity]) =
        ids entities ++ [Identified.idOf entity] := by
    simp [ids]
  rw [hAppend]
  exact List.nodup_append.mpr
    ⟨hNodup, by simp, by
      intro id hId other hOther hEq
      rw [List.mem_singleton] at hOther
      exact hNotMem (hOther ▸ hEq ▸ hId)⟩

------------------------------------------------------------
-- Distinct Ids
------------------------------------------------------------

/- Two entities of one id are one entity. -/
theorem eq_of_idOf_eq
    {entities : List α}
    {left right : α}
    (hNodup : (ids entities).Nodup)
    (hLeft : left ∈ entities)
    (hRight : right ∈ entities)
    (hId : Identified.idOf left = Identified.idOf right) :
    left = right :=
  List.inj_on_of_nodup_map hNodup hLeft hRight hId

/- An id stands for the one entity that has it. -/
theorem find?_eq_some_iff
    {entities : List α}
    (hNodup : (ids entities).Nodup)
    {id : String}
    {entity : α} :
    find? id entities = some entity ↔
      entity ∈ entities ∧ Identified.idOf entity = id := by
  constructor
  · exact find?_some
  · rintro ⟨hMem, rfl⟩
    rcases exists_find?_of_has (has_of_mem hMem) with
      ⟨found, hFound⟩
    have hSame :=
      eq_of_idOf_eq hNodup (find?_some hFound).1 hMem
        (find?_some hFound).2
    rw [hFound, hSame]

/- Changing the entity of an unknown id changes nothing. -/
theorem update_eq_self
    {id : String}
    {entities : List α}
    (hHas : has id entities = false)
    (change : α → α) :
    update id change entities = entities := by
  induction entities with
  | nil => rfl
  | cons entity rest ih =>
      have hParts :
          Identified.idOf entity ≠ id ∧
            has id rest = false := by
        simpa [has] using hHas
      simp [update, hParts.1, hParts.2]

/- Changing the entity of an id is a map over the list. -/
theorem update_eq_map
    {entities : List α}
    (hNodup : (ids entities).Nodup)
    (id : String)
    (change : α → α) :
    update id change entities =
      entities.map (fun entity =>
        if Identified.idOf entity = id then change entity
        else entity) := by
  induction entities with
  | nil => rfl
  | cons entity rest ih =>
      have hParts := List.nodup_cons.mp hNodup
      have hRest := ih hParts.2
      by_cases hId : Identified.idOf entity = id
      · have hHas : has id rest = false :=
          (has_eq_false_iff id rest).mpr (hId ▸ hParts.1)
        have hSame : rest.map (fun entity =>
            if Identified.idOf entity = id then change entity
            else entity) = rest := by
          rw [← hRest, update_eq_self hHas]
        simp [update, hHas, hId, hSame]
      · cases hHas : has id rest with
        | true => simp [update, hHas, hId, hRest]
        | false =>
            rw [update_eq_self hHas] at hRest
            simp [update, hHas, hId, ← hRest]

/- The entities of a changed list. -/
theorem mem_update_iff
    {entities : List α}
    (hNodup : (ids entities).Nodup)
    {id : String}
    {change : α → α}
    {entity : α} :
    entity ∈ update id change entities ↔
      (∃ old ∈ entities, Identified.idOf old = id ∧
          change old = entity) ∨
        entity ∈ entities ∧ Identified.idOf entity ≠ id := by
  rw [update_eq_map hNodup, List.mem_map]
  constructor
  · rintro ⟨old, hOld, rfl⟩
    by_cases hId : Identified.idOf old = id
    · exact Or.inl ⟨old, hOld, hId, by simp [hId]⟩
    · exact Or.inr (by simpa [hId] using hOld)
  · rintro (⟨old, hOld, hId, rfl⟩ | ⟨hMem, hId⟩)
    · exact ⟨old, hOld, by simp [hId]⟩
    · exact ⟨entity, hMem, by simp [hId]⟩

/- Looking up in a list changed all over. -/
theorem find?_map
    {change : α → α}
    (hKeeps : ∀ entity,
      Identified.idOf (change entity) =
        Identified.idOf entity)
    (id : String)
    (entities : List α) :
    find? id (entities.map change) =
      (find? id entities).map change := by
  induction entities with
  | nil => rfl
  | cons entity rest ih =>
      cases hRest : find? id rest with
      | some found => simp [find?, ih, hRest]
      | none =>
          by_cases hId : Identified.idOf entity = id
          · simp [find?, ih, hRest, hKeeps, hId]
          · simp [find?, ih, hRest, hKeeps, hId]

/- Lists of the same ids are alike if all look-ups are. -/
theorem map_eq_of_find?
    {left right : List α}
    (hNodup : (ids left).Nodup)
    (hIds : ids left = ids right)
    {view : α → β}
    (hFind :
      ∀ id, (find? id left).map view =
        (find? id right).map view) :
    left.map view = right.map view := by
  have hListed
      (entities : List α)
      (hNodup : (ids entities).Nodup) :
      (entities.map view).map some =
        (ids entities).map (fun id =>
          (find? id entities).map view) := by
    unfold ids
    rw [List.map_map, List.map_map]
    apply List.map_congr_left
    intro entity hMem
    have hFound :=
      (find?_eq_some_iff hNodup).mpr ⟨hMem, rfl⟩
    simp [hFound]
  have hSome :
      (left.map view).map some = (right.map view).map some := by
    rw [hListed left hNodup, hListed right (hIds ▸ hNodup),
      hIds]
    exact List.map_congr_left (fun id _ => hFind id)
  exact List.map_injective_iff.mpr
    (fun _ _ => Option.some.inj) hSome

------------------------------------------------------------
-- Lists Side By Side
------------------------------------------------------------

/- Changing one entity changes it as one may or not at all. -/
theorem forall₂_update
    {allowed : α → α → Prop}
    {id : String}
    {change : α → α}
    {entities : List α}
    (hRefl : ∀ entity ∈ entities, allowed entity entity)
    (hChange : ∀ entity ∈ entities,
      Identified.idOf entity = id →
        allowed entity (change entity)) :
    List.Forall₂ allowed entities
      (update id change entities) := by
  induction entities with
  | nil => exact .nil
  | cons entity rest ih =>
      rcases List.forall_mem_cons.mp hRefl with
        ⟨hFirst, hRest⟩
      rcases List.forall_mem_cons.mp hChange with
        ⟨hFirstChange, hRestChange⟩
      unfold update
      split
      · exact .cons hFirst (ih hRest hRestChange)
      · split
        · rename_i hId
          exact .cons (hFirstChange hId)
            (List.forall₂_same.mpr hRest)
        · exact .cons hFirst (List.forall₂_same.mpr hRest)

omit [Identified α] in
/- A view that no change touches is the same for the lists. -/
theorem map_eq_of_forall₂
    {allowed : α → α → Prop}
    {view : α → β}
    (hKeeps : ∀ before after,
      allowed before after → view after = view before)
    {before after : List α}
    (hChanges : List.Forall₂ allowed before after) :
    after.map view = before.map view := by
  induction hChanges with
  | nil => rfl
  | cons hHead _ ih =>
      rw [List.map_cons, List.map_cons, hKeeps _ _ hHead, ih]

omit [Identified α] in
/- Lists that look alike are alike entity by entity. -/
theorem forall₂_of_map_eq
    {view : α → β}
    {before after : List α}
    (hViews : after.map view = before.map view) :
    List.Forall₂
      (fun before after => view after = view before)
      before after := by
  have hSame :
      List.Forall₂ Eq (after.map view) (before.map view) := by
    rw [hViews, List.forall₂_same]
    exact fun _ _ => rfl
  rw [List.forall₂_map_left_iff,
    List.forall₂_map_right_iff] at hSame
  exact hSame.flip

omit [Identified α] in
/- Two changes after each other are changes of each entity. -/
theorem forall₂_trans
    {first second both : α → α → Prop}
    (hTrans : ∀ before middle after,
      first before middle → second middle after →
        both before after)
    {before middle after : List α}
    (hFirst : List.Forall₂ first before middle)
    (hSecond : List.Forall₂ second middle after) :
    List.Forall₂ both before after := by
  induction hFirst generalizing after with
  | nil =>
      cases hSecond
      exact .nil
  | cons hHead _ ih =>
      cases hSecond with
      | cons hNext hRest =>
          exact .cons (hTrans _ _ _ hHead hNext) (ih hRest)

end Catalog

end TextAdventure
