import Mathlib.Data.List.Nodup
import TextAdventure.Json.Record
import TextAdventure.Proofs.Dict

/-
  What is written as JSON data is read back, and what is read
  is made of parts that were read.

  A list, a dictionary, an optional value and a number come
  back from their written forms. A record that is written
  with all its fields, in order, has each of them.

  Main declarations:
    * `Json.list?_ofList`
    * `Json.dict?_ofDict`
    * `Json.Record.ofJson?_object`
    * `Json.Record.bind_required?`
    * `Json.forall_of_list?`
    * `Json.all_of_dict?`
    * `Json.Record.of_withDefault?`
-/

namespace TextAdventure

namespace Json

variable {α : Type}

------------------------------------------------------------
-- Plain Data
------------------------------------------------------------

/- Items that are read back one by one are read as a list. -/
theorem mapM_map_eq_some
    {encode : α → Json}
    {decode : Json → Option α}
    {values : List α}
    (hBack :
      ∀ value ∈ values, decode (encode value) = some value) :
    (values.map encode).mapM decode = some values := by
  induction values with
  | nil => rfl
  | cons value rest ih =>
      rcases List.forall_mem_cons.mp hBack with
        ⟨hFirst, hRest⟩
      simp [hFirst, ih hRest]

theorem list?_ofList
    {encode : α → Json}
    {decode : Json → Option α}
    {values : List α}
    (hBack :
      ∀ value ∈ values, decode (encode value) = some value) :
    list? decode (ofList encode values) = some values :=
  mapM_map_eq_some hBack

@[simp] theorem strings?_ofStrings (texts : List String) :
    strings? (ofStrings texts) = some texts :=
  list?_ofList (fun _ _ => rfl)

theorem dict?_ofDict
    {encode : α → Json}
    {decode : Json → Option α}
    {dict : Dict α}
    (hBack :
      ∀ entry ∈ dict.entries,
        decode (encode entry.2) = some entry.2) :
    dict? decode (ofDict encode dict) = some dict := by
  have hEntries :
      (dict.entries.map (fun entry =>
          (entry.1, encode entry.2))).mapM (fun entry =>
            (decode entry.2).map (fun value =>
              (entry.1, value))) =
        some dict.entries := by
    generalize dict.entries = entries at hBack
    induction entries with
    | nil => rfl
    | cons entry rest ih =>
        rcases List.forall_mem_cons.mp hBack with
          ⟨hFirst, hRest⟩
        simp [hFirst, ih hRest]
  simp only [ofDict, dict?, hEntries, Option.map_some,
    Dict.ofList_entries]

theorem bool?_bool (value : Bool) :
    bool? (.bool value) = some value := rfl

theorem string?_string (text : String) :
    string? (.string text) = some text := rfl

/- What all readings pass, all items of a list pass. -/
theorem forall_of_mapM
    {β : Type}
    {read : β → Option α}
    {test : α → Prop}
    (hTest :
      ∀ item value, read item = some value → test value)
    {items : List β}
    {values : List α}
    (hRead : items.mapM read = some values) :
    ∀ value ∈ values, test value := by
  induction items generalizing values with
  | nil =>
      cases hRead
      simp
  | cons item rest ih =>
      simp only [List.mapM_cons, Option.bind_eq_bind,
        Option.bind_eq_some_iff] at hRead
      rcases hRead with
        ⟨first, hFirst, others, hOthers, hValues⟩
      cases hValues
      exact List.forall_mem_cons.mpr
        ⟨hTest item first hFirst, ih hOthers⟩

theorem forall_of_list?
    {decode : Json → Option α}
    {test : α → Prop}
    (hTest :
      ∀ json value, decode json = some value → test value)
    {json : Json}
    {values : List α}
    (hRead : list? decode json = some values) :
    ∀ value ∈ values, test value := by
  unfold list? at hRead
  split at hRead
  · exact forall_of_mapM hTest hRead
  · simp at hRead

theorem all_of_dict?
    {decode : Json → Option α}
    {test : α → Prop}
    (hTest :
      ∀ json value, decode json = some value → test value)
    {json : Json}
    {dict : Dict α}
    (hRead : dict? decode json = some dict) :
    dict.All test := by
  unfold dict? at hRead
  split at hRead
  · rcases Option.map_eq_some_iff.mp hRead with
      ⟨entries, hEntries, rfl⟩
    apply Dict.all_ofList
    refine forall_of_mapM ?_ hEntries
    intro member entry hEntry
    rcases Option.map_eq_some_iff.mp hEntry with
      ⟨value, hValue, rfl⟩
    exact hTest _ _ hValue
  · simp at hRead

/- A value that is not written as null may be absent. -/
theorem nullable?_ofOption
    {encode : α → Json}
    {decode : Json → Option α}
    (hNotNull : ∀ value, encode value ≠ .null)
    {value : Option α}
    (hBack :
      ∀ present ∈ value,
        decode (encode present) = some present) :
    nullable? decode (ofOption encode value) = some value := by
  cases value with
  | none => rfl
  | some present =>
      have hPresent := hBack present rfl
      unfold ofOption nullable?
      split
      · rename_i hNull
        exact absurd hNull (hNotNull present)
      · simp [hPresent]

theorem natBelow?_integer
    {bound number : Nat}
    (hBound : number < bound) :
    natBelow? bound (.integer number) = some number := by
  simp [natBelow?, hBound]

@[simp] theorem uint64?_toNat (number : UInt64) :
    uint64? (.integer number.toNat) = some number := by
  rw [uint64?, natBelow?_integer number.toNat_lt_size]
  simp

@[simp] theorem uint32?_toNat (number : UInt32) :
    uint32? (.integer number.toNat) = some number := by
  rw [uint32?, natBelow?_integer number.toNat_lt_size]
  simp

------------------------------------------------------------
-- Records
------------------------------------------------------------

namespace Record

/- What the default and all readings pass, a field passes. -/
theorem of_withDefault?
    {decode : Json → Option α}
    {test : α → Prop}
    {default : α}
    (hDefault : test default)
    (hTest :
      ∀ json value, decode json = some value → test value)
    {record : Record}
    {name : String}
    {value : α}
    (hRead :
      record.withDefault? name default decode = some value) :
    test value := by
  unfold withDefault? at hRead
  split at hRead
  · exact hTest _ _ hRead
  · rw [← Option.some.inj hRead]
    exact hDefault

/- What all readings pass, a required field passes. -/
theorem of_required?
    {decode : Json → Option α}
    {test : α → Prop}
    (hTest :
      ∀ json value, decode json = some value → test value)
    {record : Record}
    {name : String}
    {value : α}
    (hRead : record.required? name decode = some value) :
    test value := by
  unfold required? at hRead
  rcases Option.bind_eq_some_iff.mp hRead with
    ⟨json, -, hDecode⟩
  exact hTest json value hDecode

/- Members with distinct names are no repetition. -/
theorem namesDiffer_eq_true
    {members : List (String × Json)}
    (hNodup : (members.map Prod.fst).Nodup) :
    namesDiffer members = true := by
  induction members with
  | nil => rfl
  | cons entry rest ih =>
      rcases List.nodup_cons.mp hNodup with ⟨hNew, hRest⟩
      have hAny :
          rest.any (fun other => other.1 == entry.1) =
            false := by
        rw [List.any_eq_false]
        intro other hOther hSame
        rw [beq_iff_eq] at hSame
        exact hNew (hSame ▸ List.mem_map_of_mem hOther)
      simp [namesDiffer, hAny, ih hRest]

/- A record with just its fields is read with all of them. -/
theorem ofJson?_object
    {names : List String}
    (hNodup : names.Nodup)
    {members : List (String × Json)}
    (hNames : members.map Prod.fst = names) :
    Record.ofJson? names (.object members) =
      some ⟨members, true⟩ := by
  subst hNames
  have hKnown :
      members.filter (fun entry =>
        (members.map Prod.fst).contains entry.1) =
          members := by
    rw [List.filter_eq_self]
    intro entry hMem
    rw [List.contains_iff_mem]
    exact List.mem_map_of_mem hMem
  simp only [Record.ofJson?, hKnown,
    namesDiffer_eq_true hNodup, if_true]

variable
  {members : List (String × Json)}
  {named : Bool}
  {name : String}
  {json : Json}
  {decode : Json → Option α}
  {value : α}
  {β : Type}
  {next : α → Option β}
  {result : β}

/- Of members with distinct names each is found by its own. -/
theorem field?_of_mem
    (hNodup : (members.map Prod.fst).Nodup)
    (hMem : (name, json) ∈ members) :
    field? ⟨members, named⟩ name = some json := by
  induction members with
  | nil => simp at hMem
  | cons entry rest ih =>
      rcases List.nodup_cons.mp hNodup with ⟨hNew, hRest⟩
      rcases List.mem_cons.mp hMem with rfl | hLater
      · simp [field?]
      · have hName : (entry.1 == name) = false := by
          have hIn : name ∈ rest.map Prod.fst :=
            List.mem_map_of_mem hLater
          rw [beq_eq_false_iff_ne]
          intro hName
          exact hNew (hName ▸ hIn)
        have hFound := ih hRest hLater
        simpa [field?, hName] using hFound

/- A record is read, and then field by field. -/
theorem bind_ofJson?
    {names : List String}
    {next : Record → Option β}
    (hNodup : names.Nodup)
    (hNames : members.map Prod.fst = names)
    (hNext : next ⟨members, true⟩ = some result) :
    (Record.ofJson? names (.object members) >>= next) =
      some result := by
  rw [ofJson?_object hNodup hNames]
  exact hNext

theorem bind_required?
    (hNodup : (members.map Prod.fst).Nodup)
    (hMem : (name, json) ∈ members)
    (hRead : decode json = some value)
    (hNext : next value = some result) :
    (required? ⟨members, named⟩ name decode >>= next) =
      some result := by
  rw [required?, field?_of_mem hNodup hMem]
  simp [hRead, hNext]

theorem bind_withDefault?
    {default : α}
    (hNodup : (members.map Prod.fst).Nodup)
    (hMem : (name, json) ∈ members)
    (hRead : decode json = some value)
    (hNext : next value = some result) :
    (withDefault? ⟨members, named⟩ name default decode >>=
        next) =
      some result := by
  rw [withDefault?, field?_of_mem hNodup hMem]
  simp [hRead, hNext]

end Record

end Json

end TextAdventure
