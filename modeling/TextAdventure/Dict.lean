/-
  Finite maps from text keys, kept in key order.

  A `Dict` is a list of entries whose keys increase, so two
  dictionaries with the same entries are equal and every
  listing of one is in key order.

  Key definitions include:
    * `Dict.get?`
    * `Dict.insert`
    * `Dict.ofList`

  The lookup laws are:
    * `Dict.get?_insert_self`
    * `Dict.get?_insert_of_ne`
-/

namespace TextAdventure

------------------------------------------------------------
-- Ordered Entry Lists
------------------------------------------------------------

/- Keys increase from each entry to every later one. -/
def KeysIncrease
    {α : Type}
    (entries : List (String × α)) : Prop :=
  entries.Pairwise (fun a b => a.1 < b.1)

/- Put an entry at its key's place, replacing an old one. -/
def insertEntry
    {α : Type}
    (key : String)
    (value : α) :
    List (String × α) → List (String × α)
| [] => [(key, value)]
| entry :: rest =>
    if key < entry.1 then
      (key, value) :: entry :: rest
    else if key = entry.1 then
      (key, value) :: rest
    else
      entry :: insertEntry key value rest

/- The value stored at a key. -/
def lookupEntry
    {α : Type}
    (key : String) :
    List (String × α) → Option α
| [] => none
| entry :: rest =>
    if key = entry.1 then
      some entry.2
    else
      lookupEntry key rest

/- An inserted key is the new one or an old one. -/
theorem fst_eq_or_mem_of_mem_insertEntry
    {α : Type}
    {key : String}
    {value : α}
    {entry : String × α} :
    ∀ {entries : List (String × α)},
      entry ∈ insertEntry key value entries →
        entry.1 = key ∨ entry ∈ entries
| [], hMem => by
    simp [insertEntry] at hMem
    exact Or.inl (by rw [hMem])
| head :: rest, hMem => by
    unfold insertEntry at hMem
    split at hMem
    · rcases List.mem_cons.mp hMem with hEq | hRest
      · exact Or.inl (by rw [hEq])
      · exact Or.inr hRest
    · split at hMem
      · rcases List.mem_cons.mp hMem with hEq | hRest
        · exact Or.inl (by rw [hEq])
        · exact Or.inr (List.mem_cons_of_mem _ hRest)
      · rcases List.mem_cons.mp hMem with hEq | hRest
        · exact Or.inr (by simp [hEq])
        · rcases fst_eq_or_mem_of_mem_insertEntry hRest with
            hKey | hOld
          · exact Or.inl hKey
          · exact Or.inr (List.mem_cons_of_mem _ hOld)

/- Insertion keeps the keys increasing. -/
theorem KeysIncrease.insertEntry
    {α : Type}
    {key : String}
    {value : α} :
    ∀ {entries : List (String × α)},
      KeysIncrease entries →
        KeysIncrease (insertEntry key value entries)
| [], _ => by
    simp [KeysIncrease, TextAdventure.insertEntry]
| head :: rest, hSorted => by
    have hHead := (List.pairwise_cons.mp hSorted).1
    have hRest := (List.pairwise_cons.mp hSorted).2
    unfold TextAdventure.insertEntry
    split
    · rename_i hLt
      refine List.pairwise_cons.mpr ⟨?_, hSorted⟩
      intro entry hEntry
      rcases List.mem_cons.mp hEntry with hEq | hMem
      · rw [hEq]
        exact hLt
      · exact String.lt_trans hLt (hHead entry hMem)
    · split
      · rename_i hEq
        refine List.pairwise_cons.mpr ⟨?_, hRest⟩
        intro entry hEntry
        rw [hEq]
        exact hHead entry hEntry
      · rename_i hNotLt hNe
        refine List.pairwise_cons.mpr
          ⟨?_, KeysIncrease.insertEntry hRest⟩
        intro entry hEntry
        rcases fst_eq_or_mem_of_mem_insertEntry hEntry with
          hKey | hMem
        · rw [hKey]
          exact Std.lt_of_le_of_ne hNotLt (Ne.symm hNe)
        · exact hHead entry hMem

/- An inserted value is found at its key. -/
theorem lookupEntry_insertEntry_self
    {α : Type}
    (key : String)
    (value : α)
    (entries : List (String × α)) :
    lookupEntry key (insertEntry key value entries) =
      some value := by
  induction entries with
  | nil => simp [insertEntry, lookupEntry]
  | cons head rest ih =>
      unfold insertEntry
      split
      · simp [lookupEntry]
      · split
        · simp [lookupEntry]
        · rename_i hNe
          simp [lookupEntry, hNe, ih]

/- Insertion leaves every other key alone. -/
theorem lookupEntry_insertEntry_of_ne
    {α : Type}
    {key other : String}
    (hNe : other ≠ key)
    (value : α)
    (entries : List (String × α)) :
    lookupEntry other (insertEntry key value entries) =
      lookupEntry other entries := by
  induction entries with
  | nil => simp [insertEntry, lookupEntry, hNe]
  | cons head rest ih =>
      unfold insertEntry
      split
      · simp [lookupEntry, hNe]
      · split
        · rename_i hEq
          subst hEq
          simp [lookupEntry, hNe]
        · simp [lookupEntry, ih]

------------------------------------------------------------
-- Dictionaries
------------------------------------------------------------

/- A map from text keys, listed in key order. -/
structure Dict (α : Type) where
  entries : List (String × α)
  keysIncrease : KeysIncrease entries
deriving DecidableEq

namespace Dict

variable {α : Type}

/- The dictionary without entries. -/
def empty : Dict α where
  entries := []
  keysIncrease := List.Pairwise.nil

instance : Inhabited (Dict α) := ⟨empty⟩

/- The value stored at a key. -/
def get? (dict : Dict α) (key : String) : Option α :=
  lookupEntry key dict.entries

/- Store a value at a key, replacing an old one. -/
def insert
    (dict : Dict α)
    (key : String)
    (value : α) : Dict α where
  entries := insertEntry key value dict.entries
  keysIncrease := dict.keysIncrease.insertEntry

/- A dictionary of entries, where a later key wins. -/
def ofList (entries : List (String × α)) : Dict α :=
  entries.foldl
    (fun dict entry => dict.insert entry.1 entry.2) empty

/- Dictionaries with the same entries are equal. -/
theorem ext_entries
    {left right : Dict α}
    (hEntries : left.entries = right.entries) :
    left = right := by
  cases left
  cases right
  cases hEntries
  rfl

@[simp] theorem get?_empty (key : String) :
    (empty : Dict α).get? key = none := rfl

@[simp] theorem get?_insert_self
    (dict : Dict α)
    (key : String)
    (value : α) :
    (dict.insert key value).get? key = some value :=
  lookupEntry_insertEntry_self key value dict.entries

theorem get?_insert_of_ne
    (dict : Dict α)
    {key other : String}
    (hNe : other ≠ key)
    (value : α) :
    (dict.insert key value).get? other = dict.get? other :=
  lookupEntry_insertEntry_of_ne hNe value dict.entries

end Dict

end TextAdventure
