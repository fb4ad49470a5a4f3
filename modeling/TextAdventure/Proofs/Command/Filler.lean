import TextAdventure.Proofs.Command.Noun

/-
  What is left of a noun without the fillers in front.

  A filler goes with the space that ends it and with the
  blanks behind that. What is left starts with no blank, and
  with no filler that a space ends. Both together determine
  what is left, so there is nothing more to take away from it.

  Main declarations:
    * `Noun.AreFillers`
    * `Noun.IsBare`
    * `Noun.stripFillers_eq_iff`
    * `Noun.spacedWords`
    * `Noun.stripFillers_normalizes`
-/

namespace TextAdventure

namespace Noun

------------------------------------------------------------
-- Runs Of Fillers
------------------------------------------------------------

variable {word removed left chars : List Char}
variable {noun text : String}

/-
  Filler words, each with the space that ends it and the
  blanks behind that.
-/
inductive AreFillers : List Char → Prop where
| nil : AreFillers []
| cons
    {word blanks rest : List Char}
    (hFiller : String.ofList word ∈ fillers)
    (hBlank : Text.AreBlank blanks)
    (hRest : AreFillers rest) :
    AreFillers (word ++ ' ' :: (blanks ++ rest))

theorem isWord_of_mem_fillers
    (hFiller : text ∈ fillers) :
    Text.IsWord text := by
  have hPlain : ∀ word ∈ fillers, Text.IsPlainWord word := by
    decide
  exact (hPlain text hFiller).isWord

theorem space_not_mem_of_mem_fillers
    (hFiller : String.ofList word ∈ fillers) :
    ' ' ∉ word := by
  simpa using
    space_not_mem_of_isWord (isWord_of_mem_fillers hFiller)

/- What fillers are put in front of begins with no blank. -/
theorem AreFillers.solid_head_append
    (hRemoved : AreFillers removed)
    (hSolid : ∀ c ∈ left.head?, Text.isBlank c = false) :
    ∀ c ∈ (removed ++ left).head?,
      Text.isBlank c = false := by
  cases hRemoved with
  | nil => exact hSolid
  | @cons word blanks rest hFiller hBlank hRest =>
      have hWord := isWord_of_mem_fillers hFiller
      have hSome : word ≠ [] := by simpa using hWord.1
      intro c hMem
      rw [List.append_assoc,
        List.head?_append_of_ne_nil word hSome] at hMem
      exact hWord.haveSolidEnds.1 c (by simpa using hMem)

/- Fillers end with a blank. -/
theorem AreFillers.isBlank_getLast
    (hRemoved : AreFillers removed) :
    ∀ c ∈ removed.getLast?, Text.isBlank c = true := by
  induction hRemoved with
  | nil => simp
  | @cons word blanks rest hFiller hBlank hRest ih =>
      intro c hMem
      have hBehind : c ∈ (' ' :: (blanks ++ rest)).getLast? := by
        rwa [List.getLast?_append_of_ne_nil _
          (List.cons_ne_nil _ _)] at hMem
      by_cases hNil : rest = []
      · rw [hNil, List.append_nil] at hBehind
        rcases List.mem_cons.mp
            (List.mem_of_mem_getLast? hBehind) with rfl | hMem
        · rfl
        · exact hBlank c hMem
      · rw [← List.cons_append,
          List.getLast?_append_of_ne_nil _ hNil] at hBehind
        exact ih c hBehind

------------------------------------------------------------
-- What Is Left
------------------------------------------------------------

/-
  Characters without a blank in front, and without a filler
  that a space ends.
-/
structure IsBare (chars : List Char) : Prop where
  solid_head : ∀ c ∈ chars.head?, Text.isBlank c = false
  no_filler :
    ∀ word rest, chars = word ++ ' ' :: rest →
      ' ' ∉ word → String.ofList word ∉ fillers

theorem isBare_dropFillers
    (hSolid : ∀ c ∈ chars.head?, Text.isBlank c = false) :
    IsBare (dropFillers chars) := by
  fun_induction dropFillers chars with
  | case1 chars hSplit =>
      refine ⟨hSolid, ?_⟩
      rintro word rest rfl hWord
      rw [splitSpace?_append hWord] at hSplit
      cases hSplit
  | case2 chars word rest hSplit hFiller ih =>
      -- The rest is trimmed, whatever blanks the space hid.
      exact ih (Text.solid_head_trimFront rest)
  | case3 chars first others hSplit hOther =>
      refine ⟨hSolid, ?_⟩
      rintro word rest rfl hWord
      rw [splitSpace?_append hWord] at hSplit
      cases hSplit
      simpa using hOther

/- Only fillers are dropped. -/
theorem exists_eq_append_dropFillers (chars : List Char) :
    ∃ removed,
      AreFillers removed ∧
        chars = removed ++ dropFillers chars := by
  fun_induction dropFillers chars with
  | case1 chars hSplit => exact ⟨[], .nil, rfl⟩
  | case2 chars word rest hSplit hFiller ih =>
      rcases ih with ⟨removed, hRemoved, hLeft⟩
      have hMem : String.ofList word ∈ fillers := by
        simpa using hFiller
      have hBlank : Text.AreBlank (rest.takeWhile Text.isBlank) :=
        List.all_eq_true.mp List.all_takeWhile
      refine ⟨_, .cons hMem hBlank hRemoved, ?_⟩
      calc
        chars = word ++ ' ' :: rest :=
          (eq_of_splitSpace? hSplit).1
        _ = word ++ ' ' ::
              (rest.takeWhile Text.isBlank ++
                Text.trimFront rest) := by
          rw [Text.trimFront, List.takeWhile_append_dropWhile]
        _ = _ := by
          conv => lhs; rw [hLeft]
          simp
  | case3 chars word rest hSplit hOther => exact ⟨[], .nil, rfl⟩

theorem IsBare.dropFillers_eq
    (hBare : IsBare chars) :
    dropFillers chars = chars := by
  by_cases hSpace : ' ' ∈ chars
  · rcases List.eq_append_cons_of_mem hSpace with
      ⟨word, rest, hChars, hWord⟩
    have hOther := hBare.no_filler word rest hChars hWord
    rw [hChars, dropFillers_append hWord, if_neg]
    simpa using hOther
  · exact dropFillers_of_single hSpace

/- All fillers are dropped. -/
theorem dropFillers_append_of_areFillers
    (hRemoved : AreFillers removed)
    (hBare : IsBare left) :
    dropFillers (removed ++ left) = left := by
  induction hRemoved with
  | nil => exact hBare.dropFillers_eq
  | @cons word blanks rest hFiller hBlank hRest ih =>
      have hShape :
          word ++ ' ' :: (blanks ++ rest) ++ left =
            word ++ ' ' :: (blanks ++ (rest ++ left)) := by
        simp
      -- So trimming stops where the next filler begins.
      have hSolid := hRest.solid_head_append hBare.solid_head
      rw [hShape,
        dropFillers_append
          (space_not_mem_of_mem_fillers hFiller),
        if_pos (List.contains_iff_mem.mpr hFiller),
        Text.trimFront_append hBlank hSolid, ih]

/-
  What is left of a noun is the one bare text that fillers are
  in front of in the trimmed noun.
-/
theorem stripFillers_eq_iff :
    stripFillers noun = text ↔
      IsBare text.toList ∧
        ∃ removed,
          AreFillers removed ∧
            (Text.trim noun).toList =
              removed ++ text.toList := by
  rw [stripFillers, Text.toList_trim]
  constructor
  · rintro rfl
    rw [String.toList_ofList]
    exact ⟨isBare_dropFillers
        (Text.haveSolidEnds_trimChars _).1,
      exists_eq_append_dropFillers _⟩
  · rintro ⟨hBare, removed, hRemoved, hNoun⟩
    rw [hNoun, dropFillers_append_of_areFillers hRemoved hBare,
      String.ofList_toList]

/- A space ends a filler, and another blank does not. -/
example :
    stripFillers "the \u00a0an\tapple" = "an\tapple" := by
  decide +kernel

------------------------------------------------------------
-- Words Between Spaces
------------------------------------------------------------

/- The words of a text that spaces delimit. -/
def spacedWords (text : String) : List String :=
  let pieces := text.toList.splitOn ' '
  (pieces.filter (fun piece => piece ≠ [])).map String.ofList

theorem spacedWords_of_single
    (hSpace : ' ' ∉ text.toList)
    (hSome : text ≠ "") :
    spacedWords text = [text] := by
  simp [spacedWords, List.splitOn_eq_singleton hSpace, hSome]

theorem spacedWords_append
    (hWord : ' ' ∉ word)
    (hSome : word ≠ [])
    (rest : List Char) :
    spacedWords (String.ofList (word ++ ' ' :: rest)) =
      String.ofList word :: spacedWords (String.ofList rest) := by
  simp [spacedWords,
    List.splitOn_append_cons_self_of_not_mem hWord, hSome]

/- A bare text begins with a filler only if it is all. -/
theorem IsBare.eq_nil_of_mem_fillers
    (hBare : IsBare text.toList)
    {first : String}
    {rest : List String}
    (hWords : spacedWords text = first :: rest)
    (hFiller : first ∈ fillers) :
    rest = [] := by
  by_cases hSpace : ' ' ∈ text.toList
  · rcases List.eq_append_cons_of_mem hSpace with
      ⟨word, others, hText, hWord⟩
    have hSome : word ≠ [] := by
      rintro rfl
      exact absurd (hBare.solid_head ' ' (by simp [hText]))
        (by decide)
    rw [← String.ofList_toList (s := text), hText,
      spacedWords_append hWord hSome] at hWords
    have hFirst := (List.cons.inj hWords).1
    rw [← hFirst] at hFiller
    exact absurd hFiller
      (hBare.no_filler word others hText hWord)
  · have hText : text ≠ "" := by
      rintro rfl
      cases hWords
    rw [spacedWords_of_single hSpace hText] at hWords
    exact (List.cons.inj hWords).2.symm

------------------------------------------------------------
-- The Noun Without Its Fillers
------------------------------------------------------------

theorem isBare_stripFillers (noun : String) :
    IsBare (stripFillers noun).toList :=
  (stripFillers_eq_iff.mp rfl).1

theorem exists_eq_append_stripFillers (noun : String) :
    ∃ removed,
      AreFillers removed ∧
        (Text.trim noun).toList =
          removed ++ (stripFillers noun).toList :=
  (stripFillers_eq_iff.mp rfl).2

/- All that is taken away is fillers, and blanks at the ends. -/
theorem exists_eq_append_stripFillers_append (noun : String) :
    ∃ front removed back,
      noun.toList =
          front ++ removed ++ (stripFillers noun).toList ++
            back ∧
        Text.AreBlank front ∧ AreFillers removed ∧
        Text.AreBlank back := by
  rcases exists_eq_append_stripFillers noun with
    ⟨removed, hRemoved, hLeft⟩
  rcases Text.exists_eq_append_trimChars noun.toList with
    ⟨front, back, hNoun, hFront, hBack⟩
  rw [← Text.toList_trim, hLeft, ← List.append_assoc] at hNoun
  exact ⟨front, removed, back, hNoun, hFront, hRemoved, hBack⟩

/- Something is left of every noun that is not blank. -/
theorem stripFillers_eq_empty_iff :
    stripFillers noun = "" ↔ Text.AreBlank noun.toList := by
  rcases exists_eq_append_stripFillers noun with
    ⟨removed, hRemoved, hLeft⟩
  rw [Text.toList_trim] at hLeft
  rw [← Text.trimChars_eq_nil_iff]
  constructor
  · intro hEmpty
    rw [hEmpty, String.toList_empty, List.append_nil] at hLeft
    rw [hLeft, ← List.getLast?_eq_none_iff,
      Option.eq_none_iff_forall_not_mem]
    -- The last character would be blank and not blank.
    intro c hLast
    have hSolid :=
      (Text.haveSolidEnds_trimChars noun.toList).2 c
        (by rwa [hLeft])
    rw [hRemoved.isBlank_getLast c hLast] at hSolid
    cases hSolid
  · intro hNil
    rw [hNil] at hLeft
    exact String.toList_eq_nil_iff.mp
      (List.append_eq_nil_iff.mp hLeft.symm).2

theorem haveSolidEnds_stripFillers (noun : String) :
    Text.HaveSolidEnds (stripFillers noun).toList := by
  rcases exists_eq_append_stripFillers noun with
    ⟨removed, -, hLeft⟩
  refine ⟨(isBare_stripFillers noun).solid_head, ?_⟩
  intro c hMem
  apply (Text.haveSolidEnds_trimChars noun.toList).2
  rw [← Text.toList_trim, hLeft, List.getLast?_append,
    Option.mem_def.mp hMem]
  rfl

/- A second time there is nothing to take away. -/
theorem stripFillers_stripFillers (noun : String) :
    stripFillers (stripFillers noun) = stripFillers noun := by
  have hTrim :
      (Text.trim (stripFillers noun)).toList =
        (stripFillers noun).toList := by
    rw [Text.toList_trim,
      Text.trimChars_eq_self (haveSolidEnds_stripFillers noun)]
  exact stripFillers_eq_iff.mpr
    ⟨isBare_stripFillers noun, [], .nil, hTrim⟩

/-
  What is left of a noun is an end of the trimmed noun, and
  empty only if the noun is blank. It does not begin with a
  filler unless this is its only word. Only blanks and filler
  words are taken away, and nothing the second time.
-/
theorem stripFillers_normalizes (noun : String) :
    (stripFillers noun).toList <:+ (Text.trim noun).toList ∧
      (stripFillers noun = "" ↔ Text.AreBlank noun.toList) ∧
      (∀ first rest,
        spacedWords (stripFillers noun) = first :: rest →
          first ∈ fillers → rest = []) ∧
      (∃ front removed back,
        noun.toList =
            front ++ removed ++ (stripFillers noun).toList ++
              back ∧
          Text.AreBlank front ∧ AreFillers removed ∧
          Text.AreBlank back) ∧
      stripFillers (stripFillers noun) = stripFillers noun := by
  refine ⟨?_, stripFillers_eq_empty_iff, ?_,
    exists_eq_append_stripFillers_append noun,
    stripFillers_stripFillers noun⟩
  · rcases exists_eq_append_stripFillers noun with
      ⟨removed, -, hLeft⟩
    exact ⟨removed, hLeft.symm⟩
  · intro first rest hWords hFiller
    exact (isBare_stripFillers noun).eq_nil_of_mem_fillers
      hWords hFiller

/- Of fillers only, with all kinds of blanks, the last is left. -/
theorem stripFillers_normalizes_onTheA :
    let noun := "\u00a0on  the \t a\u3000"
    stripFillers noun = "a" ∧
      (stripFillers noun).toList <:+ (Text.trim noun).toList ∧
      ¬ Text.AreBlank noun.toList ∧
      spacedWords (stripFillers noun) = ["a"] ∧
      "a" ∈ fillers ∧
      (∀ rest,
        spacedWords (stripFillers noun) = "a" :: rest →
          rest = []) ∧
      stripFillers (stripFillers noun) = stripFillers noun := by
  intro noun
  rcases stripFillers_normalizes noun with
    ⟨hSuffix, hEmpty, hFirst, -, hAgain⟩
  have hLeft : stripFillers noun = "a" := by
    decide +kernel
  have hFiller : "a" ∈ fillers := by decide
  refine ⟨hLeft, hSuffix, ?_, ?_, hFiller, ?_, hAgain⟩
  · rw [← hEmpty, hLeft]
    decide
  · rw [hLeft]
    rfl
  · intro rest hWords
    exact hFirst "a" rest hWords hFiller

end Noun

end TextAdventure
