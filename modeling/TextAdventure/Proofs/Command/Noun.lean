import TextAdventure.Command.Noun
import TextAdventure.Proofs.Command.Grammar

/-
  The noun by which a name is looked up.

  Of the words that are typed after a verb those before the
  first preposition are the noun, and of these the fillers in
  front are skipped while a word follows. What is left is a
  part of what was typed, and all of it unless a preposition
  or a filler is in the way.

  Main declarations:
    * `Noun.dropFillerWords`
    * `Noun.stripFillers_joinWith`
    * `Noun.wordsOf`
    * `Noun.wordsOf_eq_self`
-/

namespace TextAdventure

namespace Noun

------------------------------------------------------------
-- Fillers
------------------------------------------------------------

variable {word : List Char}
variable {chars rest : List Char}
variable {words : List String}

theorem splitSpace?_append
    (hWord : ' ' ∉ word)
    (rest : List Char) :
    splitSpace? (word ++ ' ' :: rest) = some (word, rest) := by
  induction word with
  | nil => simp [splitSpace?]
  | cons c word ih =>
      rw [List.mem_cons, not_or] at hWord
      simp [splitSpace?, Ne.symm hWord.1, ih hWord.2]

theorem splitSpace?_eq_none
    (hWord : ' ' ∉ word) :
    splitSpace? word = none := by
  induction word with
  | nil => rfl
  | cons c word ih =>
      rw [List.mem_cons, not_or] at hWord
      simp [splitSpace?, Ne.symm hWord.1, ih hWord.2]

/- A single word is kept, whatever it is. -/
theorem dropFillers_of_single
    (hWord : ' ' ∉ chars) :
    dropFillers chars = chars := by
  have hSplit := splitSpace?_eq_none hWord
  unfold dropFillers
  split
  · rfl
  · rename_i first rest hSome
    rw [hSplit] at hSome
    cases hSome

/- Of several words the first one goes if it is a filler. -/
theorem dropFillers_append
    (hWord : ' ' ∉ word)
    (rest : List Char) :
    dropFillers (word ++ ' ' :: rest) =
      if fillers.contains (String.ofList word) then
        dropFillers (Text.trimFront rest)
      else
        word ++ ' ' :: rest := by
  have hSplit := splitSpace?_append hWord rest
  conv => lhs; unfold dropFillers
  split
  · rename_i hNone
    rw [hSplit] at hNone
    cases hNone
  · rename_i first others hSome
    rw [hSplit, Option.some.injEq, Prod.mk.injEq] at hSome
    rcases hSome with ⟨rfl, rfl⟩
    rfl

/- Words without the fillers in front, while one follows. -/
def dropFillerWords : List String → List String
| [] => []
| [word] => [word]
| word :: next :: rest =>
    if fillers.contains word then
      dropFillerWords (next :: rest)
    else
      word :: next :: rest

theorem space_not_mem_of_isWord
    {word : String}
    (hWord : Text.IsWord word) :
    ' ' ∉ word.toList := by
  intro hMem
  exact absurd (hWord.2 ' ' hMem) (by decide)

theorem dropFillers_joinWith
    (hWords : ∀ word ∈ words, Text.IsWord word) :
    dropFillers (Text.joinWith " " words).toList =
      (Text.joinWith " " (dropFillerWords words)).toList := by
  induction words with
  | nil => exact dropFillers_of_single List.not_mem_nil
  | cons word rest ih =>
      rcases List.forall_mem_cons.mp hWords with
        ⟨hFirst, hRest⟩
      have hSpace := space_not_mem_of_isWord hFirst
      cases rest with
      | nil => exact dropFillers_of_single hSpace
      | cons next others =>
          have hJoined :
              (Text.joinWith " "
                  (word :: next :: others)).toList =
                word.toList ++
                  ' ' ::
                    (Text.joinWith " "
                      (next :: others)).toList := by
            simp [Text.joinWith]
          have hTrim :=
            Text.trimFront_eq_self
              (Text.haveSolidEnds_joinWith hRest).1
          rw [hJoined, dropFillers_append hSpace, hTrim,
            ih hRest, String.ofList_toList, dropFillerWords]
          split
          · rfl
          · exact hJoined.symm

/- Fillers are skipped word by word. -/
theorem stripFillers_joinWith
    (hWords : ∀ word ∈ words, Text.IsWord word) :
    stripFillers (Text.joinWith " " words) =
      Text.joinWith " " (dropFillerWords words) := by
  rw [stripFillers,
    Text.trimChars_eq_self (Text.haveSolidEnds_joinWith hWords),
    dropFillers_joinWith hWords, String.ofList_toList]

/- Some words at the end are left, if there are any. -/
theorem dropFillerWords_suffix (words : List String) :
    dropFillerWords words <:+ words := by
  induction words with
  | nil => exact List.suffix_rfl
  | cons word rest ih =>
      cases rest with
      | nil => exact List.suffix_rfl
      | cons next others =>
          rw [dropFillerWords]
          split
          · exact ih.trans (List.suffix_cons _ _)
          · exact List.suffix_rfl

theorem dropFillerWords_ne_nil
    (hSome : words ≠ []) :
    dropFillerWords words ≠ [] := by
  induction words with
  | nil => exact hSome
  | cons word rest ih =>
      cases rest with
      | nil => exact List.cons_ne_nil _ _
      | cons next others =>
          rw [dropFillerWords]
          split
          · exact ih (List.cons_ne_nil _ _)
          · exact List.cons_ne_nil _ _

------------------------------------------------------------
-- The Words Of A Noun
------------------------------------------------------------

/-
  The words by which a thing is looked up if some words are
  typed after a verb.
-/
def wordsOf : List String → List String
| [] => []
| first :: others =>
    dropFillerWords
      (first ::
        others.takeWhile (fun word =>
          !Command.isPreposition word))

/-
  Words with nothing in the way: there is only one, or the
  first is no filler and no other one is a preposition.
-/
def ArePlain : List String → Prop
| [] => True
| first :: others =>
    (others = [] ∨ fillers.contains first = false) ∧
      Command.HaveNoPreposition others

/- Such words are looked up as they are. -/
theorem wordsOf_eq_self
    (hPlain : ArePlain words) :
    wordsOf words = words := by
  cases words with
  | nil => rfl
  | cons first others =>
      rcases hPlain with ⟨hFirst, hNone⟩
      rw [wordsOf,
        List.takeWhile_eq_self_iff.mpr hNone.passed]
      cases others with
      | nil => rfl
      | cons next rest =>
          have hNoFiller :=
            hFirst.resolve_left (List.cons_ne_nil _ _)
          rw [dropFillerWords, hNoFiller]
          rfl

/- What is looked up stands somewhere in what was typed. -/
theorem wordsOf_infix (words : List String) :
    wordsOf words <:+: words := by
  cases words with
  | nil => exact List.infix_rfl
  | cons first others =>
      have hTaken :
          first ::
              others.takeWhile (fun word =>
                !Command.isPreposition word) <+:
            first :: others :=
        List.prefix_cons_inj _ |>.mpr
          (List.takeWhile_prefix _)
      exact (dropFillerWords_suffix _).isInfix.trans
        hTaken.isInfix

theorem wordsOf_ne_nil
    (hSome : words ≠ []) :
    wordsOf words ≠ [] := by
  cases words with
  | nil => exact hSome
  | cons first others =>
      exact dropFillerWords_ne_nil (List.cons_ne_nil _ _)

/- The noun of a command, without the fillers in front. -/
theorem stripFillers_noun
    (hWords : ∀ word ∈ words, Text.IsWord word)
    (hSome : words ≠ [])
    (verb raw : String) :
    ∃ noun,
      (Command.withObjects verb raw words).noun = some noun ∧
        stripFillers noun =
          Text.joinWith " " (wordsOf words) := by
  cases words with
  | nil => exact absurd rfl hSome
  | cons first others =>
      refine ⟨_, rfl, stripFillers_joinWith ?_⟩
      intro word hMem
      apply hWords
      rcases List.mem_cons.mp hMem with rfl | hTaken
      · exact List.mem_cons_self
      · exact List.mem_cons_of_mem _
          ((List.takeWhile_prefix _).subset hTaken)

/- The noun of a line that examines what plain words name. -/
theorem stripFillers_noun_ofLine_examine
    (hWords : ∀ word ∈ words, Text.IsPlainWord word)
    (hSome : words ≠ []) :
    ∃ noun,
      (Command.ofLine
          ("examine " ++ Text.joinWith " " words)).noun =
        some noun ∧
        stripFillers noun =
          Text.joinWith " " (wordsOf words) := by
  have hTyped : ∀ word ∈ words, Text.IsWord word :=
    fun word hMem => (hWords word hMem).isWord
  rw [Command.ofLine_examine, Text.lowercase_joinWith hWords,
    Text.words_joinWith hTyped]
  exact stripFillers_noun hTyped hSome _ _

end Noun

end TextAdventure
