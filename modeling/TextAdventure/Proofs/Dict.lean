import TextAdventure.Dict

/-
  Dictionaries and their entries.

  Keys differ, so an entry is listed exactly if its value is
  stored at its key, and the entries of a dictionary make up
  that very dictionary.

  Main declarations:
    * `Dict.mem_entries_iff`
    * `Dict.ext_get?`
    * `Dict.ofList_entries`
    * `Dict.All`
    * `Dict.map`
-/

namespace TextAdventure

variable {α : Type}

------------------------------------------------------------
-- Entries
------------------------------------------------------------

/- An entry with a key above all others goes to the end. -/
theorem insertEntry_eq_append
    {key : String}
    {value : α}
    {entries : List (String × α)}
    (hAbove : ∀ entry ∈ entries, entry.1 < key) :
    insertEntry key value entries =
      entries ++ [(key, value)] := by
  induction entries with
  | nil => rfl
  | cons entry rest ih =>
      rcases List.forall_mem_cons.mp hAbove with
        ⟨hFirst, hRest⟩
      have hNotBelow : ¬ key < entry.1 :=
        fun hBelow => String.lt_irrefl _
          (String.lt_trans hBelow hFirst)
      have hNe : key ≠ entry.1 := by
        rintro rfl
        exact String.lt_irrefl _ hFirst
      simp [insertEntry, hNotBelow, hNe, ih hRest]

/- With increasing keys a value is listed where it is found. -/
theorem lookupEntry_eq_some_iff
    {entries : List (String × α)}
    (hIncrease : KeysIncrease entries)
    (key : String)
    (value : α) :
    lookupEntry key entries = some value ↔
      (key, value) ∈ entries := by
  induction entries with
  | nil => simp [lookupEntry]
  | cons entry rest ih =>
      rcases List.pairwise_cons.mp hIncrease with
        ⟨hBelow, hRest⟩
      by_cases hKey : key = entry.1
      · subst hKey
        have hAbsent : (entry.1, value) ∉ rest := by
          intro hMem
          exact String.lt_irrefl entry.1
            (hBelow (entry.1, value) hMem)
        simp [lookupEntry, hAbsent, Prod.ext_iff, eq_comm]
      · have hOther : (key, value) ≠ entry := by
          rintro rfl
          exact hKey rfl
        simp [lookupEntry, hKey, ih hRest, hOther]

/- A value that is changed is found as changed. -/
theorem lookupEntry_map
    {β : Type}
    (change : α → β)
    (entries : List (String × α))
    (key : String) :
    lookupEntry key
        (entries.map (fun entry =>
          (entry.1, change entry.2))) =
      (lookupEntry key entries).map change := by
  induction entries with
  | nil => rfl
  | cons entry rest ih =>
      simp only [List.map_cons, lookupEntry]
      split
      · rfl
      · exact ih

namespace Dict

/- The entries are what is stored. -/
theorem mem_entries_iff
    (dict : Dict α)
    (entry : String × α) :
    entry ∈ dict.entries ↔
      dict.get? entry.1 = some entry.2 :=
  (lookupEntry_eq_some_iff dict.keysIncrease _ _).symm

/- The keys differ. -/
theorem nodup_keys (dict : Dict α) :
    (dict.entries.map Prod.fst).Nodup := by
  have hIncrease :
      dict.entries.Pairwise (fun a b => a.1 < b.1) :=
    dict.keysIncrease
  refine List.pairwise_map.mpr (hIncrease.imp ?_)
  intro first second hLess hSame
  rw [hSame] at hLess
  exact String.lt_irrefl _ hLess

/- Dictionaries with the same values at all keys are equal. -/
theorem ext_get?
    {left right : Dict α}
    (hSame : ∀ key, left.get? key = right.get? key) :
    left = right := by
  have hNodup (dict : Dict α) : dict.entries.Nodup :=
    List.Pairwise.of_map Prod.fst
      (fun _ _ => mt (congrArg Prod.fst)) dict.nodup_keys
  have hPerm : left.entries.Perm right.entries := by
    apply (List.perm_ext_iff_of_nodup (hNodup left)
      (hNodup right)).mpr
    intro entry
    rw [mem_entries_iff, mem_entries_iff, hSame]
  apply ext_entries
  apply hPerm.eq_of_pairwise ?_ left.keysIncrease
    right.keysIncrease
  intro first second _ _ hLess hGreater
  exact absurd (String.lt_trans hLess hGreater)
    (String.lt_irrefl first.1)

/- A dictionary is made again from its entries. -/
theorem ofList_entries (dict : Dict α) :
    ofList dict.entries = dict := by
  have hFold :
      ∀ (rest : List (String × α)) (dict : Dict α),
        KeysIncrease (dict.entries ++ rest) →
          (rest.foldl
            (fun dict entry => dict.insert entry.1 entry.2)
            dict).entries = dict.entries ++ rest := by
    intro rest
    induction rest with
    | nil => simp
    | cons entry rest ih =>
        intro dict hIncrease
        have hAbove :
            ∀ other ∈ dict.entries, other.1 < entry.1 := by
          intro other hOther
          exact (List.pairwise_append.mp hIncrease).2.2
            other hOther entry List.mem_cons_self
        have hInsert :
            (dict.insert entry.1 entry.2).entries =
              dict.entries ++ [entry] :=
          insertEntry_eq_append hAbove
        rw [List.foldl_cons, ih, hInsert]
        · simp
        · rw [hInsert]
          simpa using hIncrease
  apply ext_entries
  exact hFold dict.entries .empty dict.keysIncrease

------------------------------------------------------------
-- Tested Values
------------------------------------------------------------

/- All stored values pass a test. -/
def All (test : α → Prop) (dict : Dict α) : Prop :=
  ∀ entry ∈ dict.entries, test entry.2

instance
    (test : α → Prop)
    [DecidablePred test]
    (dict : Dict α) : Decidable (dict.All test) :=
  inferInstanceAs
    (Decidable (∀ entry ∈ dict.entries, test entry.2))

variable {test : α → Prop}

theorem all_empty : (empty : Dict α).All test := by
  intro entry hMem
  cases hMem

theorem All.insert
    {dict : Dict α}
    (hAll : dict.All test)
    {value : α}
    (hValue : test value)
    (key : String) :
    (dict.insert key value).All test := by
  intro entry hMem
  rw [mem_entries_iff] at hMem
  by_cases hKey : entry.1 = key
  · rw [hKey, get?_insert_self] at hMem
    rw [← Option.some.inj hMem]
    exact hValue
  · rw [get?_insert_of_ne dict hKey] at hMem
    exact hAll entry ((mem_entries_iff dict entry).mpr hMem)

theorem all_ofList
    {entries : List (String × α)}
    (hEntries : ∀ entry ∈ entries, test entry.2) :
    (ofList entries).All test := by
  have hFold :
      ∀ (rest : List (String × α)) (dict : Dict α),
        dict.All test → (∀ entry ∈ rest, test entry.2) →
          (rest.foldl
            (fun dict entry => dict.insert entry.1 entry.2)
            dict).All test := by
    intro rest
    induction rest with
    | nil => exact fun _ hAll _ => hAll
    | cons entry rest ih =>
        intro dict hAll hEntries
        rcases List.forall_mem_cons.mp hEntries with
          ⟨hFirst, hRest⟩
        exact ih _ (hAll.insert hFirst entry.1) hRest
  exact hFold entries .empty all_empty hEntries

------------------------------------------------------------
-- Changed Values
------------------------------------------------------------

variable {β : Type}

/- The dictionary with each of its values changed. -/
def map (change : α → β) (dict : Dict α) : Dict β where
  entries :=
    dict.entries.map (fun entry => (entry.1, change entry.2))
  keysIncrease := by
    have hIncrease :
        dict.entries.Pairwise (fun a b => a.1 < b.1) :=
      dict.keysIncrease
    exact List.pairwise_map.mpr hIncrease

theorem get?_map
    (change : α → β)
    (dict : Dict α)
    (key : String) :
    (dict.map change).get? key =
      (dict.get? key).map change :=
  lookupEntry_map change dict.entries key

theorem All.map
    {change : α → β}
    {test : β → Prop}
    {dict : Dict α}
    (hAll : dict.All (fun value => test (change value))) :
    (dict.map change).All test := by
  intro entry hMem
  rcases List.mem_map.mp hMem with ⟨old, hOld, rfl⟩
  exact hAll old hOld

/- Where no value is changed the dictionary is the same. -/
theorem map_eq_self
    {change : α → α}
    {dict : Dict α}
    (hSame : dict.All (fun value => change value = value)) :
    dict.map change = dict := by
  apply ext_entries
  refine (List.map_congr_left ?_).trans (List.map_id _)
  intro entry hMem
  rw [hSame entry hMem]
  rfl

end Dict

end TextAdventure
