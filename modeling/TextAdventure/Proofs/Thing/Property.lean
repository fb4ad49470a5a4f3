import Mathlib.Data.List.Nodup
import TextAdventure.Scene.Change

/-
  What reading a property tells after one has been written.

  A path is a text, and many texts address one entry of a
  thing: a key of custom state under two beginnings, a flag
  in any case and with any underscores, and one flag under
  two opposed words. Reading and writing look a word up in a
  table each. The tables agree: whatever is written under a
  word is read under it, and all that is read is written but
  for four words. So what is written at a path is read at
  every path of the same entry and nowhere else.

  Main declarations:
    * `Property.entry`
    * `Field.property`
    * `Thing.read?_write`
    * `Thing.read?_write_of_ne`
    * `Property.ofPath?_eq_some_iff`
    * `Field.ofPath?_property`
    * `Field.exists_ofPath?_iff`
    * `Property.SameEntry`
    * `Property.sameEntry_of_entry_eq`
    * `Thing.properties_obey_lens_laws`
-/

namespace TextAdventure

------------------------------------------------------------
-- Entries Of A Thing
------------------------------------------------------------

namespace Property

/- The entry that a property tells of, by its first name. -/
def entry : Property → Property
| .visible => .flag .hidden
| property => property

/-
  What is read at one name of an entry after a value has been
  written at another. A flag has two names at most, which are
  opposed.
-/
def told (property other : Property) (value : Value) : Value :=
  match property with
  | .custom _ => value
  | _ =>
      if other = property then
        .boolean value.isTruthy
      else
        .boolean (!value.isTruthy)

end Property

/- The property that tells what is written to a field. -/
def Field.property : Field → Property
| .custom key => .custom key
| .flag which => .flag which
| .visible => .visible

namespace Thing

variable {field : Field}
variable {other : Property}
variable {flag : Flag}

/- Every property can be read of some thing. -/
theorem exists_read?_eq_some (property : Property) :
    ∃ (thing : Thing) (value : Value),
      thing.read? property = some value := by
  cases property with
  | custom key =>
      refine ⟨({} : Thing).withState key default, default, ?_⟩
      simp [read?, withState]
  | location => exact ⟨{ placement := .room "" }, _, rfl⟩
  | containedIn =>
      exact ⟨{ placement := .container "" }, _, rfl⟩
  | flag | visible | carried | worn => exact ⟨{}, _, rfl⟩

/- A flag is set under all of its names. -/
theorem read?_set
    (hEntry : other.entry = .flag flag)
    (value : Bool)
    (thing : Thing) :
    (flag.set value thing).read? other =
      some (.boolean
        (if other = .visible then !value else value)) := by
  cases other with
  | visible =>
      cases hEntry
      rfl
  | flag otherFlag =>
      cases hEntry
      simp [read?]
  | custom | carried | worn | location | containedIn =>
      cases hEntry

/- Setting a flag leaves every other entry alone. -/
theorem read?_set_of_ne
    (hNe : other.entry ≠ .flag flag)
    (value : Bool)
    (thing : Thing) :
    (flag.set value thing).read? other = thing.read? other := by
  have hGet {otherFlag : Flag}
      (hEntry : other.entry = .flag otherFlag) :
      otherFlag.get (flag.set value thing) =
        otherFlag.get thing := by
    apply Flag.get_set_of_ne
    rintro rfl
    exact hNe hEntry
  cases other with
  | flag otherFlag => simp only [read?, hGet rfl]
  | visible =>
      have hHidden :
          (flag.set value thing).hidden = thing.hidden :=
        hGet rfl
      simp only [read?, hHidden]
  | custom | carried | worn | location | containedIn =>
      cases flag <;> rfl

/- What was written is read at each name of its entry. -/
theorem read?_write
    (hEntry : other.entry = field.property.entry)
    (value : Value)
    (thing : Thing) :
    (thing.write field value).read? other =
      some (field.property.told other value) := by
  cases field with
  | custom key =>
      have hSame : other = .custom key := by
        cases other <;> first | exact hEntry | cases hEntry
      subst hSame
      simp [read?, write, withState, Field.property,
        Property.told]
  | flag flag =>
      refine (read?_set hEntry value.isTruthy thing).trans ?_
      cases other with
      | flag =>
          cases hEntry
          simp [Field.property, Property.told]
      | visible => simp [Field.property, Property.told]
      | custom | carried | worn | location | containedIn =>
          cases hEntry
  | visible =>
      refine (read?_set hEntry (!value.isTruthy) thing).trans ?_
      cases other <;> simp [Field.property, Property.told]

/- Every other entry is read as it was. -/
theorem read?_write_of_ne
    (hNe : other.entry ≠ field.property.entry)
    (value : Value)
    (thing : Thing) :
    (thing.write field value).read? other =
      thing.read? other := by
  cases field with
  | custom key =>
      cases other with
      | custom otherKey =>
          have hKey : otherKey ≠ key := by
            rintro rfl
            exact hNe rfl
          exact Dict.get?_insert_of_ne _ hKey value
      | flag flag => cases flag <;> rfl
      | visible | carried | worn | location | containedIn => rfl
  | flag flag =>
      exact read?_set_of_ne hNe value.isTruthy thing
  | visible =>
      exact read?_set_of_ne hNe (!value.isTruthy) thing

/- A thing that is, for its place and its names, the same. -/
structure IsSameThing (thing after : Thing) : Prop where
  placement : after.placement = thing.placement
  isWorn : after.isWorn = thing.isWorn
  id : after.id = thing.id
  name : after.name = thing.name
  aliases : after.aliases = thing.aliases
  description : after.description = thing.description
  text : after.text = thing.text

theorem isSameThing_write
    (field : Field)
    (value : Value)
    (thing : Thing) :
    thing.IsSameThing (thing.write field value) := by
  cases field with
  | flag flag =>
      cases flag <;> exact ⟨rfl, rfl, rfl, rfl, rfl, rfl, rfl⟩
  | custom | visible => exact ⟨rfl, rfl, rfl, rfl, rfl, rfl, rfl⟩

end Thing

------------------------------------------------------------
-- Paths
------------------------------------------------------------

namespace Property

variable {path other : String}
variable {property otherProperty : Property}

/- A path leads to a key of custom state. -/
def LeadsTo (path key : String) : Prop :=
  path = "customState." ++ key ∨ path = "custom_state." ++ key

/- A path goes by the name of a property. -/
def IsNamed (path : String) : Prop :=
  ∀ key, ¬ LeadsTo path key

/- Two paths that go by one name. -/
def SameName (path other : String) : Prop :=
  IsNamed path ∧ IsNamed other ∧
    normalize path = normalize other

/- Two paths of which one says what the other denies. -/
def Opposed (path other : String) : Prop :=
  IsNamed path ∧ IsNamed other ∧
    (normalize path = "hidden" ∧ normalize other = "visible" ∨
      normalize path = "visible" ∧ normalize other = "hidden")

/- Two paths that address one entry of a thing. -/
def SameEntry (path other : String) : Prop :=
  (∃ key, LeadsTo path key ∧ LeadsTo other key) ∨
    SameName path other ∨ Opposed path other

/- The key of a path is what follows its beginning. -/
theorem customKey?_eq_some_iff
    {key : String} :
    customKey? path = some key ↔ LeadsTo path key := by
  have hOfList (start : String) (rest : List Char) :
      path.toList = start.toList ++ rest ↔
        path = start ++ String.ofList rest := by
    rw [← String.toList_inj, String.toList_append,
      String.toList_ofList]
  simp only [customKey?, Option.map_eq_some_iff,
    Option.or_eq_some_iff, Text.stripStart?_eq_some_iff]
  constructor
  · rintro ⟨rest, hCamel | ⟨-, hSnake⟩, rfl⟩
    · exact Or.inl ((hOfList _ _).mp hCamel)
    · exact Or.inr ((hOfList _ _).mp hSnake)
  · rintro (hCamel | hSnake)
    · refine ⟨key.toList, Or.inl ?_, String.ofList_toList⟩
      rw [hOfList, String.ofList_toList]
      exact hCamel
    · refine ⟨key.toList, Or.inr ⟨?_, ?_⟩,
        String.ofList_toList⟩
      · rw [hSnake, Option.eq_none_iff_forall_ne_some]
        intro rest hCamel
        rw [Text.stripStart?_eq_some_iff,
          String.toList_append] at hCamel
        simp at hCamel
      · rw [hOfList, String.ofList_toList]
        exact hSnake

theorem customKey?_eq_none_iff :
    customKey? path = none ↔ IsNamed path := by
  unfold IsNamed
  simp only [← customKey?_eq_some_iff,
    Option.eq_none_iff_forall_ne_some, ne_eq]

/- Where each word stands once, it finds what stands there. -/
theorem find?_word_iff
    {α : Type}
    {table : List (String × α)}
    (hWords : (table.map Prod.fst).Nodup)
    {word : String}
    {found : α} :
    (table.find? (fun entry => entry.1 == word)).map
        Prod.snd = some found ↔
      (word, found) ∈ table := by
  constructor
  · intro hFind
    rcases Option.map_eq_some_iff.mp hFind with
      ⟨entry, hEntry, rfl⟩
    have hWord := List.find?_some hEntry
    rw [beq_iff_eq] at hWord
    rw [← hWord]
    exact List.mem_of_find?_eq_some hEntry
  · intro hMem
    have hSome :
        (table.find? (fun entry =>
          entry.1 == word)).isSome = true :=
      List.find?_isSome.mpr ⟨_, hMem, beq_self_eq_true word⟩
    rcases Option.isSome_iff_exists.mp hSome with
      ⟨entry, hEntry⟩
    have hWord := List.find?_some hEntry
    rw [beq_iff_eq] at hWord
    have hSame : entry = (word, found) :=
      List.inj_on_of_nodup_map hWords
        (List.mem_of_find?_eq_some hEntry) hMem hWord
    rw [hEntry, hSame]
    rfl

/- A path addresses what its key or its word stands for. -/
theorem addressed_iff
    {α : Type}
    {table : List (String × α)}
    (hWords : (table.map Prod.fst).Nodup)
    {custom : String → α}
    {found : α} :
    (match customKey? path with
      | some key => some (custom key)
      | none =>
          (table.find? (fun entry =>
            entry.1 == normalize path)).map Prod.snd) =
        some found ↔
      (∃ key, LeadsTo path key ∧ found = custom key) ∨
        IsNamed path ∧ (normalize path, found) ∈ table := by
  cases hCustom : customKey? path with
  | none =>
      have hNamed := customKey?_eq_none_iff.mp hCustom
      refine (find?_word_iff hWords).trans ?_
      constructor
      · intro hMem
        exact Or.inr ⟨hNamed, hMem⟩
      · rintro (⟨key, hKey, -⟩ | ⟨-, hMem⟩)
        · exact absurd hKey (hNamed key)
        · exact hMem
  | some key =>
      have hKey := customKey?_eq_some_iff.mp hCustom
      constructor
      · rintro ⟨⟩
        exact Or.inl ⟨key, hKey, rfl⟩
      · rintro (⟨other, hOther, rfl⟩ | ⟨hNamed, -⟩)
        · rw [← customKey?_eq_some_iff, hCustom] at hOther
          cases hOther
          rfl
        · exact absurd hKey (hNamed key)

theorem ofPath?_eq_some_iff :
    ofPath? path = some property ↔
      (∃ key, LeadsTo path key ∧ property = .custom key) ∨
        IsNamed path ∧ (normalize path, property) ∈ named :=
  addressed_iff (by decide)

theorem ofPath?_of_leadsTo
    {key : String}
    (hKey : LeadsTo path key) :
    ofPath? path = some (.custom key) := by
  rw [← customKey?_eq_some_iff] at hKey
  simp only [ofPath?, hKey]

theorem ofPath?_of_isNamed
    (hNamed : IsNamed path) :
    ofPath? path =
      (named.find? (fun entry =>
        entry.1 == normalize path)).map Prod.snd := by
  rw [← customKey?_eq_none_iff] at hNamed
  simp only [ofPath?, hNamed]

theorem ofPath?_of_sameName (hSame : SameName path other) :
    ofPath? other = ofPath? path := by
  rcases hSame with ⟨hPath, hOther, hWord⟩
  rw [ofPath?_of_isNamed hPath, ofPath?_of_isNamed hOther,
    hWord]

theorem ofPath?_of_opposed (hOpposed : Opposed path other) :
    ofPath? path = some (.flag .hidden) ∧
        ofPath? other = some .visible ∨
      ofPath? path = some .visible ∧
        ofPath? other = some (.flag .hidden) := by
  rcases hOpposed with ⟨hPath, hOther, hWords⟩
  rw [ofPath?_of_isNamed hPath, ofPath?_of_isNamed hOther]
  rcases hWords with ⟨hHidden, hVisible⟩ | ⟨hVisible, hHidden⟩
  · rw [hHidden, hVisible]
    exact Or.inl ⟨rfl, rfl⟩
  · rw [hHidden, hVisible]
    exact Or.inr ⟨rfl, rfl⟩

/- The words of an entry are one word or two opposed ones. -/
theorem words_of_entry_eq
    {word otherWord : String}
    (hMem : (word, property) ∈ named)
    (hOther : (otherWord, otherProperty) ∈ named)
    (hEntry : otherProperty.entry = property.entry) :
    word = otherWord ∨
      word = "hidden" ∧ otherWord = "visible" ∨
      word = "visible" ∧ otherWord = "hidden" := by
  have hTable :
      ∀ left ∈ named, ∀ right ∈ named,
        right.2.entry = left.2.entry →
          left.1 = right.1 ∨
            left.1 = "hidden" ∧ right.1 = "visible" ∨
            left.1 = "visible" ∧ right.1 = "hidden" := by
    decide
  exact hTable _ hMem _ hOther hEntry

/- No word of the table is one for custom state. -/
theorem entry_ne_custom
    {word : String}
    (hMem : (word, property) ∈ named)
    (key : String) :
    property.entry ≠ .custom key := by
  cases property with
  | custom => simp [named] at hMem
  | flag | visible | carried | worn | location
  | containedIn => simp [entry]

/- A property with a name is read as true or false. -/
theorem told_self_of_isNamed
    (hNamed : IsNamed path)
    (hPath : ofPath? path = some property)
    (value : Value) :
    property.told property value =
      .boolean value.isTruthy := by
  cases property with
  | custom key =>
      rcases ofPath?_eq_some_iff.mp hPath with
        ⟨other, hKey, -⟩ | ⟨-, hMem⟩
      · exact absurd hKey (hNamed other)
      · exact absurd rfl (entry_ne_custom hMem key)
  | flag | visible | carried | worn | location
  | containedIn => simp [told]

/- Paths to one entry address it by one key or word. -/
theorem sameEntry_of_entry_eq
    (hPath : ofPath? path = some property)
    (hOther : ofPath? other = some otherProperty)
    (hEntry : otherProperty.entry = property.entry) :
    SameEntry path other := by
  rw [ofPath?_eq_some_iff] at hPath hOther
  rcases hPath with ⟨key, hKey, rfl⟩ | ⟨hNamed, hMem⟩
  · rcases hOther with ⟨otherKey, hOtherKey, rfl⟩ | ⟨-, hMem⟩
    · cases hEntry
      exact Or.inl ⟨key, hKey, hOtherKey⟩
    · exact absurd hEntry (entry_ne_custom hMem key)
  · rcases hOther with
      ⟨otherKey, -, rfl⟩ | ⟨hOtherNamed, hOtherMem⟩
    · exact absurd hEntry.symm (entry_ne_custom hMem otherKey)
    · rcases words_of_entry_eq hMem hOtherMem hEntry with
        hWord | hWords
      · exact Or.inr (Or.inl ⟨hNamed, hOtherNamed, hWord⟩)
      · exact Or.inr (Or.inr ⟨hNamed, hOtherNamed, hWords⟩)

/- The words for what may be read but not written. -/
def readOnlyWords : List String :=
  ["iscarried", "isworn", "location", "containedin"]

/- A path into custom state is none of those words. -/
theorem normalize_not_mem_readOnlyWords
    {key : String}
    (hKey : LeadsTo path key) :
    normalize path ∉ readOnlyWords := by
  have hSecond : (normalize path).toList[1]? = some 'u' := by
    rcases hKey with rfl | rfl <;>
      simp [normalize, Text.lowercase, Text.lowerChars,
        Text.lowerFrom, Text.lowerChar]
  have hTable :
      ∀ word ∈ readOnlyWords, word.toList[1]? ≠ some 'u' := by
    decide
  intro hMem
  exact hTable _ hMem hSecond

end Property

------------------------------------------------------------
-- Two Tables
------------------------------------------------------------

namespace Field

variable {path : String}
variable {field : Field}

theorem ofPath?_eq_some_iff :
    ofPath? path = some field ↔
      (∃ key,
          Property.LeadsTo path key ∧ field = .custom key) ∨
        Property.IsNamed path ∧
          (Property.normalize path, field) ∈ named :=
  Property.addressed_iff (by decide)

/- What is written under a word is read under that word. -/
theorem property_mem_named
    {word : String}
    (hMem : (word, field) ∈ named) :
    (word, field.property) ∈ Property.named := by
  have hTable :
      ∀ entry ∈ named,
        (entry.1, entry.2.property) ∈ Property.named := by
    decide
  exact hTable _ hMem

/- What is read under a word is written but for four words. -/
theorem exists_mem_named_iff
    {word : String} :
    (∃ field, (word, field) ∈ named) ↔
      (∃ property, (word, property) ∈ Property.named) ∧
        word ∉ Property.readOnlyWords := by
  have hWritten :
      ∀ entry ∈ named, entry.1 ∉ Property.readOnlyWords := by
    decide
  have hRest :
      ∀ entry ∈ Property.named,
        entry.1 ∉ Property.readOnlyWords →
          ∃ other ∈ named, other.1 = entry.1 := by
    decide
  constructor
  · rintro ⟨field, hMem⟩
    exact ⟨⟨field.property, property_mem_named hMem⟩,
      hWritten _ hMem⟩
  · rintro ⟨⟨property, hMem⟩, hNot⟩
    rcases hRest _ hMem hNot with ⟨⟨_, field⟩, hField, rfl⟩
    exact ⟨field, hField⟩

/- What is written at a path is read at that path. -/
theorem ofPath?_property
    (hPath : ofPath? path = some field) :
    Property.ofPath? path = some field.property := by
  rw [Property.ofPath?_eq_some_iff]
  rcases ofPath?_eq_some_iff.mp hPath with
    ⟨key, hKey, rfl⟩ | ⟨hNamed, hMem⟩
  · exact Or.inl ⟨key, hKey, rfl⟩
  · exact Or.inr ⟨hNamed, property_mem_named hMem⟩

/- What is read at a path is written but for four words. -/
theorem exists_ofPath?_iff :
    (∃ field, ofPath? path = some field) ↔
      (∃ property, Property.ofPath? path = some property) ∧
        Property.normalize path ∉ Property.readOnlyWords := by
  constructor
  · rintro ⟨field, hPath⟩
    refine ⟨⟨field.property, ofPath?_property hPath⟩, ?_⟩
    rcases ofPath?_eq_some_iff.mp hPath with
      ⟨key, hKey, -⟩ | ⟨-, hMem⟩
    · exact Property.normalize_not_mem_readOnlyWords hKey
    · exact (exists_mem_named_iff.mp ⟨field, hMem⟩).2
  · rintro ⟨⟨property, hPath⟩, hNot⟩
    rcases Property.ofPath?_eq_some_iff.mp hPath with
      ⟨key, hKey, -⟩ | ⟨hNamed, hMem⟩
    · exact ⟨.custom key,
        ofPath?_eq_some_iff.mpr (Or.inl ⟨key, hKey, rfl⟩)⟩
    · rcases exists_mem_named_iff.mpr ⟨⟨property, hMem⟩, hNot⟩
        with ⟨field, hField⟩
      exact ⟨field, ofPath?_eq_some_iff.mpr
        (Or.inr ⟨hNamed, hField⟩)⟩

end Field

------------------------------------------------------------
-- Reading What Was Written
------------------------------------------------------------

namespace Thing

variable {thing after : Thing}
variable {path other : String}
variable {value : Value}

theorem setProperty?_eq_some_iff :
    thing.setProperty? path value = some after ↔
      ∃ field, Field.ofPath? path = some field ∧
        thing.write field value = after := by
  unfold setProperty?
  cases Field.ofPath? path <;> simp

theorem property?_of_ofPath?
    {property : Property}
    (thing : Thing)
    (hPath : Property.ofPath? path = some property) :
    thing.property? path = thing.read? property := by
  simp only [property?, hPath]

/- A path is understood if it can be read of some thing. -/
theorem exists_property?_eq_some_iff :
    (∃ (other : Thing) (read : Value),
        other.property? path = some read) ↔
      ∃ property, Property.ofPath? path = some property := by
  constructor
  · rintro ⟨other, read, hRead⟩
    cases hPath : Property.ofPath? path with
    | some property => exact ⟨property, rfl⟩
    | none => simp [property?, hPath] at hRead
  · rintro ⟨property, hPath⟩
    rcases exists_read?_eq_some property with
      ⟨other, read, hRead⟩
    refine ⟨other, read, ?_⟩
    rw [other.property?_of_ofPath? hPath]
    exact hRead

/- A path may be written if it is known and not excepted. -/
theorem isSome_setProperty?_iff
    (thing : Thing)
    (path : String)
    (value : Value) :
    (thing.setProperty? path value).isSome = true ↔
      (∃ (other : Thing) (read : Value),
          other.property? path = some read) ∧
        Property.normalize path ∉ Property.readOnlyWords := by
  rw [exists_property?_eq_some_iff,
    ← Field.exists_ofPath?_iff]
  unfold setProperty?
  cases Field.ofPath? path <;> simp

/- What was written is read at every path of its entry. -/
theorem property?_of_setProperty?
    {property otherProperty : Property}
    (hSet : thing.setProperty? path value = some after)
    (hPath : Property.ofPath? path = some property)
    (hOther : Property.ofPath? other = some otherProperty)
    (hEntry : otherProperty.entry = property.entry) :
    after.property? other =
      some (property.told otherProperty value) := by
  rcases setProperty?_eq_some_iff.mp hSet with
    ⟨field, hField, rfl⟩
  rw [Field.ofPath?_property hField] at hPath
  cases hPath
  rw [property?_of_ofPath? _ hOther]
  exact read?_write hEntry value thing

/- At a path of another entry the same is read as before. -/
theorem property?_of_setProperty?_of_not_sameEntry
    (hSet : thing.setProperty? path value = some after)
    (hApart : ¬ Property.SameEntry path other) :
    after.property? other = thing.property? other := by
  rcases setProperty?_eq_some_iff.mp hSet with
    ⟨field, hField, rfl⟩
  cases hOther : Property.ofPath? other with
  | none => simp only [property?, hOther]
  | some otherProperty =>
      rw [property?_of_ofPath? _ hOther,
        property?_of_ofPath? _ hOther]
      apply read?_write_of_ne
      intro hEntry
      exact hApart (Property.sameEntry_of_entry_eq
        (Field.ofPath?_property hField) hOther hEntry)

/-
  Reading tells what was written. A path that is refused
  leaves the thing as it is. Any other path is read at every
  path of its entry, as the value itself for custom state and
  as its truth for a flag, which the opposed word denies. All
  other entries, and what the thing is and where, stay the
  same. A path is refused if nothing can be read there of any
  thing, and if it tells of the thing's place or of its being
  worn.
-/
theorem properties_obey_lens_laws
    (thing : Thing)
    (path : String)
    (value : Value) :
    (thing.setProperty? path value = none →
      Scene.writeProperty path value thing = thing) ∧
    (∀ after, thing.setProperty? path value = some after →
      Scene.writeProperty path value thing = after ∧
      (∀ other key, Property.LeadsTo path key →
        Property.LeadsTo other key →
          after.property? other = some value) ∧
      (∀ other, Property.SameName path other →
        after.property? other =
          some (.boolean value.isTruthy)) ∧
      (∀ other, Property.Opposed path other →
        after.property? other =
          some (.boolean (!value.isTruthy))) ∧
      (∀ other, ¬ Property.SameEntry path other →
        after.property? other = thing.property? other) ∧
      thing.IsSameThing after) ∧
    ((thing.setProperty? path value).isSome = true ↔
      (∃ (other : Thing) (read : Value),
          other.property? path = some read) ∧
        Property.normalize path ∉ Property.readOnlyWords) := by
  refine ⟨?_, ?_, thing.isSome_setProperty?_iff path value⟩
  · intro hRefused
    simp only [Scene.writeProperty, hRefused,
      Option.getD_none]
  · intro after hSet
    rcases setProperty?_eq_some_iff.mp hSet with
      ⟨field, hField, hWrite⟩
    have hPath := Field.ofPath?_property hField
    have hSame : thing.IsSameThing after :=
      hWrite ▸ isSameThing_write field value thing
    refine ⟨?_, ?_, ?_, ?_, ?_, hSame⟩
    · simp only [Scene.writeProperty, hSet, Option.getD_some]
    · intro other key hKey hOther
      exact property?_of_setProperty? hSet
        (Property.ofPath?_of_leadsTo hKey)
        (Property.ofPath?_of_leadsTo hOther) rfl
    · intro other hSame
      have hOther := Property.ofPath?_of_sameName hSame
      rw [hPath] at hOther
      rw [property?_of_setProperty? hSet hPath hOther rfl,
        Property.told_self_of_isNamed hSame.1 hPath]
    · intro other hOpposed
      rcases Property.ofPath?_of_opposed hOpposed with
        ⟨hHidden, hVisible⟩ | ⟨hVisible, hHidden⟩
      · exact property?_of_setProperty? hSet hHidden hVisible
          rfl
      · exact property?_of_setProperty? hSet hVisible hHidden
          rfl
    · intro other hApart
      exact property?_of_setProperty?_of_not_sameEntry hSet
        hApart

end Thing

end TextAdventure
