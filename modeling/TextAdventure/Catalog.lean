/-
  Lists of entities that are known by an id.

  A list keeps the order of the content. Should an id occur
  more than once, it stands for the last entity that has it,
  while listings show every one.

  Key definitions include:
    * `Identified`
    * `Catalog.find?`
    * `Catalog.update`

  The lookup laws are:
    * `Catalog.find?_update_self`
    * `Catalog.find?_update_of_ne`
-/

namespace TextAdventure

------------------------------------------------------------
-- Lookup And Change
------------------------------------------------------------

/- Entities that have an id. -/
class Identified (α : Type) where
  idOf : α → String

namespace Catalog

variable {α : Type} [Identified α]

/- The entity that an id stands for. -/
def find? (id : String) : List α → Option α
| [] => none
| entity :: rest =>
    match find? id rest with
    | some found => some found
    | none =>
        if Identified.idOf entity = id then some entity
        else none

/- Whether an id stands for an entity. -/
def has (id : String) (entities : List α) : Bool :=
  entities.any (fun entity => Identified.idOf entity == id)

/- The list with the entity that an id stands for changed. -/
def update
    (id : String)
    (change : α → α) :
    List α → List α
| [] => []
| entity :: rest =>
    if has id rest then
      entity :: update id change rest
    else if Identified.idOf entity = id then
      change entity :: rest
    else
      entity :: rest

/- The ids of a list, in order. -/
def ids (entities : List α) : List String :=
  entities.map Identified.idOf

------------------------------------------------------------
-- Laws
------------------------------------------------------------

/- An id stands for something exactly when it occurs. -/
theorem has_iff
    (id : String)
    (entities : List α) :
    has id entities = true ↔
      ∃ entity ∈ entities, Identified.idOf entity = id := by
  simp [has]

theorem find?_isSome
    (id : String)
    (entities : List α) :
    (find? id entities).isSome = has id entities := by
  induction entities with
  | nil => rfl
  | cons entity rest ih =>
      have hCons :
          has id (entity :: rest) =
            (Identified.idOf entity == id || has id rest) :=
        rfl
      rw [hCons, ← ih]
      cases hRest : find? id rest with
      | some found => simp [find?, hRest]
      | none =>
          by_cases hId : Identified.idOf entity = id
          · simp [find?, hRest, hId]
          · simp [find?, hRest, hId]

theorem find?_eq_none_iff
    (id : String)
    (entities : List α) :
    find? id entities = none ↔ has id entities = false := by
  rw [← find?_isSome, Option.isSome_eq_false_iff,
    Option.isNone_iff_eq_none]

/- What is found is in the list and has the id. -/
theorem find?_some
    {id : String}
    {entities : List α}
    {found : α}
    (hFind : find? id entities = some found) :
    found ∈ entities ∧ Identified.idOf found = id := by
  induction entities with
  | nil => simp [find?] at hFind
  | cons entity rest ih =>
      unfold find? at hFind
      split at hFind
      · rename_i other hRest
        cases hFind
        exact ⟨List.mem_cons_of_mem _ (ih hRest).1,
          (ih hRest).2⟩
      · split at hFind
        · rename_i hId
          cases hFind
          exact ⟨List.mem_cons_self, hId⟩
        · simp at hFind

/- A change that keeps ids keeps which ids occur. -/
theorem ids_update
    {id : String}
    {change : α → α}
    (hKeeps : ∀ entity,
      Identified.idOf (change entity) =
        Identified.idOf entity)
    (entities : List α) :
    ids (update id change entities) = ids entities := by
  induction entities with
  | nil => rfl
  | cons entity rest ih =>
      unfold update
      split
      · simpa [ids] using ih
      · split
        · simp [ids, hKeeps]
        · rfl

/- Which ids occur hangs on the listed ids only. -/
theorem has_congr
    {left right : List α}
    (hIds : ids left = ids right)
    (id : String) :
    has id left = has id right := by
  have hMap (entities : List α) :
      has id entities = (ids entities).any (· == id) := by
    simp [has, ids, List.any_map, Function.comp_def]
  rw [hMap, hMap, hIds]

theorem has_update
    {id : String}
    {change : α → α}
    (hKeeps : ∀ entity,
      Identified.idOf (change entity) =
        Identified.idOf entity)
    (other : String)
    (entities : List α) :
    has other (update id change entities) =
      has other entities :=
  has_congr (ids_update hKeeps entities) other

/- The changed entity is found at its id. -/
theorem find?_update_self
    {id : String}
    {change : α → α}
    (hKeeps : ∀ entity,
      Identified.idOf (change entity) =
        Identified.idOf entity)
    (entities : List α) :
    find? id (update id change entities) =
      (find? id entities).map change := by
  induction entities with
  | nil => rfl
  | cons entity rest ih =>
      cases hHas : has id rest with
      | true =>
          have hSome : (find? id rest).isSome = true := by
            rw [find?_isSome, hHas]
          obtain ⟨found, hFound⟩ :=
            Option.isSome_iff_exists.mp hSome
          simp [update, hHas, find?, ih, hFound]
      | false =>
          have hNone := (find?_eq_none_iff id rest).mpr hHas
          by_cases hId : Identified.idOf entity = id
          · have hNew :
                Identified.idOf (change entity) = id := by
              rw [hKeeps, hId]
            simp [update, hHas, hId, find?, hNone, hNew]
          · simp [update, hHas, hId, find?, hNone]

/- Every other id stands for what it stood for. -/
theorem find?_update_of_ne
    {id other : String}
    {change : α → α}
    (hKeeps : ∀ entity,
      Identified.idOf (change entity) =
        Identified.idOf entity)
    (hNe : other ≠ id)
    (entities : List α) :
    find? other (update id change entities) =
      find? other entities := by
  induction entities with
  | nil => rfl
  | cons entity rest ih =>
      unfold update
      split
      · simp [find?, ih]
      · split
        · rename_i hId
          have hOld : Identified.idOf entity ≠ other := by
            rw [hId]
            exact Ne.symm hNe
          simp [find?, hKeeps, hOld]
        · rfl

end Catalog

end TextAdventure
