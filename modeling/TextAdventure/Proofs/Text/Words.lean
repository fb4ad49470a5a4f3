import Mathlib.Data.List.Basic
import TextAdventure.Text.Blank
import TextAdventure.Text.Lowercase
import TextAdventure.Text.Search

/-
  The words of a text.

  Splitting at a blank character splits the words, and from
  this follow all other laws: words joined by spaces are read
  back, and blanks at the ends make no difference, also not to
  the lower-case form of the words between them.

  Main declarations:
    * `Text.IsWord`
    * `Text.wordRuns_append_blank`
    * `Text.words_joinWith`
    * `Text.infix_joinWith`
    * `Text.haveSolidEnds_trimChars`
    * `Text.lowercase_append_space`
    * `Text.words_lowercase_trim`
-/

namespace TextAdventure

namespace Text

------------------------------------------------------------
-- Words And Blanks
------------------------------------------------------------

variable {c : Char}
variable {run front back chars : List Char}

/- Characters that are all blank. -/
def AreBlank (chars : List Char) : Prop :=
  ∀ c ∈ chars, isBlank c = true

/- Characters of which none is blank. -/
def HaveNoBlank (chars : List Char) : Prop :=
  ∀ c ∈ chars, isBlank c = false

/- A text that is one word. -/
def IsWord (text : String) : Prop :=
  text ≠ "" ∧ HaveNoBlank text.toList

@[simp] theorem wordRuns_nil_nil : wordRuns [] [] = [] := rfl

@[simp] theorem wordRuns_cons_nil (c : Char) (run : List Char) :
    wordRuns (c :: run) [] = [(c :: run).reverse] := rfl

theorem wordRuns_nil_of_blank
    (hBlank : isBlank c = true)
    (rest : List Char) :
    wordRuns [] (c :: rest) = wordRuns [] rest :=
  if_pos hBlank

theorem wordRuns_cons_of_blank
    (hBlank : isBlank c = true)
    (d : Char)
    (run rest : List Char) :
    wordRuns (d :: run) (c :: rest) =
      (d :: run).reverse :: wordRuns [] rest :=
  if_pos hBlank

theorem wordRuns_of_not_blank
    (hSolid : isBlank c = false)
    (run rest : List Char) :
    wordRuns run (c :: rest) = wordRuns (c :: run) rest := by
  have hNot : ¬ isBlank c = true := by simp [hSolid]
  cases run with
  | nil => exact if_neg hNot
  | cons d run => exact if_neg hNot

/- A blank ends the word before it. -/
theorem wordRuns_append_blank
    (hBlank : isBlank c = true)
    (run front back : List Char) :
    wordRuns run (front ++ c :: back) =
      wordRuns run front ++ wordRuns [] back := by
  induction front generalizing run with
  | nil =>
      cases run with
      | nil => exact wordRuns_nil_of_blank hBlank back
      | cons d run =>
          exact wordRuns_cons_of_blank hBlank d run back
  | cons d front ih =>
      cases hFirst : isBlank d with
      | true =>
          cases run with
          | nil =>
              rw [List.cons_append,
                wordRuns_nil_of_blank hFirst,
                wordRuns_nil_of_blank hFirst, ih]
          | cons e run =>
              rw [List.cons_append,
                wordRuns_cons_of_blank hFirst,
                wordRuns_cons_of_blank hFirst, ih,
                List.cons_append]
      | false =>
          rw [List.cons_append, wordRuns_of_not_blank hFirst,
            wordRuns_of_not_blank hFirst, ih]

/- Blanks have no words. -/
theorem wordRuns_of_areBlank
    (hBlank : AreBlank chars) :
    wordRuns [] chars = [] := by
  induction chars with
  | nil => rfl
  | cons c rest ih =>
      rcases List.forall_mem_cons.mp hBlank with
        ⟨hFirst, hRest⟩
      rw [wordRuns_nil_of_blank hFirst, ih hRest]

/- Without a blank there is one word. -/
theorem wordRuns_of_haveNoBlank
    (hSolid : HaveNoBlank chars)
    (hSome : run ≠ [] ∨ chars ≠ []) :
    wordRuns run chars = [run.reverse ++ chars] := by
  induction chars generalizing run with
  | nil =>
      cases run with
      | nil => simp at hSome
      | cons d run => simp
  | cons c rest ih =>
      rcases List.forall_mem_cons.mp hSolid with
        ⟨hFirst, hRest⟩
      have hLonger : c :: run ≠ [] := List.cons_ne_nil c run
      rw [wordRuns_of_not_blank hFirst,
        ih hRest (Or.inl hLonger)]
      simp

/- The words of a text are words. -/
theorem haveNoBlank_of_mem_wordRuns
    {word : List Char}
    (hRun : HaveNoBlank run)
    (hMem : word ∈ wordRuns run chars) :
    word ≠ [] ∧ HaveNoBlank word := by
  have hReverse : HaveNoBlank run.reverse :=
    fun c hMem => hRun c (List.mem_reverse.mp hMem)
  have hNil : HaveNoBlank [] := by simp [HaveNoBlank]
  induction chars generalizing run with
  | nil =>
      cases run with
      | nil => simp at hMem
      | cons d run =>
          rw [wordRuns_cons_nil, List.mem_singleton] at hMem
          subst hMem
          exact ⟨by simp, hReverse⟩
  | cons c rest ih =>
      cases hFirst : isBlank c with
      | true =>
          cases run with
          | nil =>
              rw [wordRuns_nil_of_blank hFirst] at hMem
              exact ih hNil hMem hNil
          | cons d run =>
              rw [wordRuns_cons_of_blank hFirst,
                List.mem_cons] at hMem
              rcases hMem with rfl | hMem
              · exact ⟨by simp, hReverse⟩
              · exact ih hNil hMem hNil
      | false =>
          rw [wordRuns_of_not_blank hFirst] at hMem
          have hLonger : HaveNoBlank (c :: run) :=
            List.forall_mem_cons.mpr ⟨hFirst, hRun⟩
          exact ih hLonger hMem
            (fun c hMem => hLonger c (List.mem_reverse.mp hMem))

theorem isWord_of_mem_words
    {word text : String}
    (hMem : word ∈ words text) :
    IsWord word := by
  rcases List.mem_map.mp hMem with ⟨chars, hChars, rfl⟩
  rcases haveNoBlank_of_mem_wordRuns (by simp [HaveNoBlank])
    hChars with ⟨hSome, hSolid⟩
  exact ⟨by simpa using hSome, by simpa using hSolid⟩

------------------------------------------------------------
-- Joining
------------------------------------------------------------

theorem words_of_isWord
    {word : String}
    (hWord : IsWord word) :
    words word = [word] := by
  have hSome : word.toList ≠ [] := by
    simpa using hWord.1
  simp [words, wordRuns_of_haveNoBlank hWord.2 (Or.inr hSome)]

/- A space ends the words before it. -/
theorem words_append_space (left right : String) :
    words (left ++ " " ++ right) =
      words left ++ words right := by
  have hSpace := wordRuns_append_blank (c := ' ') rfl []
    left.toList right.toList
  simp [words, hSpace]

/- A space in front is skipped. -/
theorem words_ofList_space (chars : List Char) :
    words (String.ofList (' ' :: chars)) =
      words (String.ofList chars) := by
  have hSpace : isBlank ' ' = true := rfl
  simp [words, wordRuns_nil_of_blank hSpace]

/- Words that are joined by spaces are read back. -/
theorem words_joinWith
    {texts : List String}
    (hWords : ∀ word ∈ texts, IsWord word) :
    words (joinWith " " texts) = texts := by
  induction texts with
  | nil => rfl
  | cons text rest ih =>
      rcases List.forall_mem_cons.mp hWords with
        ⟨hFirst, hRest⟩
      cases rest with
      | nil => exact words_of_isWord hFirst
      | cons next others =>
          have hJoined :
              joinWith " " (text :: next :: others) =
                text ++ " " ++ joinWith " " (next :: others) :=
            rfl
          rw [hJoined, words_append_space,
            words_of_isWord hFirst, ih hRest]
          rfl

theorem joinWith_ne_empty
    {texts : List String}
    (hWords : ∀ word ∈ texts, IsWord word)
    (hSome : texts ≠ []) :
    joinWith " " texts ≠ "" := by
  intro hEmpty
  have hRead := words_joinWith hWords
  rw [hEmpty] at hRead
  exact hSome hRead.symm

/- Joined lists of texts are joined by one separator more. -/
theorem joinWith_append
    (separator : String)
    {left right : List String}
    (hLeft : left ≠ [])
    (hRight : right ≠ []) :
    joinWith separator (left ++ right) =
      joinWith separator left ++ separator ++
        joinWith separator right := by
  induction left with
  | nil => exact absurd rfl hLeft
  | cons first rest ih =>
      cases rest with
      | nil =>
          cases right with
          | nil => exact absurd rfl hRight
          | cons next others => rfl
      | cons second others =>
          have hRest := ih (List.cons_ne_nil second others)
          simp only [List.cons_append, joinWith] at hRest ⊢
          rw [hRest]
          simp only [String.append_assoc]

------------------------------------------------------------
-- Parts Of Texts
------------------------------------------------------------

theorem occursIn_eq_true_iff
    {part text : List Char} :
    occursIn part text = true ↔ part <:+: text := by
  induction text with
  | nil => cases part <;> simp [occursIn]
  | cons c text ih =>
      have hStart :
          (stripStart? part (c :: text)).isSome = true ↔
            part <+: c :: text := by
        rw [Option.isSome_iff_exists]
        exact exists_congr (fun rest =>
          stripStart?_eq_some_iff.trans eq_comm)
      rw [occursIn, Bool.or_eq_true, hStart, ih,
        List.infix_cons_iff]

/- A text contains the texts that stand somewhere in it. -/
theorem contains_eq_true_iff
    {text part : String} :
    contains text part = true ↔
      part.toList <:+: text.toList :=
  occursIn_eq_true_iff

/- Words that follow each other among joined words. -/
theorem infix_joinWith
    {part words : List String}
    (hPart : part <:+: words) :
    (joinWith " " part).toList <:+:
      (joinWith " " words).toList := by
  have hAppend (left right : List String) :
      (joinWith " " left).toList <:+:
          (joinWith " " (left ++ right)).toList ∧
        (joinWith " " right).toList <:+:
          (joinWith " " (left ++ right)).toList := by
    by_cases hLeft : left = []
    · simp [hLeft, joinWith, List.nil_infix]
    · by_cases hRight : right = []
      · simp [hRight, joinWith, List.nil_infix]
      · rw [joinWith_append " " hLeft hRight]
        simp only [String.toList_append]
        constructor
        · rw [List.append_assoc]
          exact (List.prefix_append _ _).isInfix
        · exact (List.suffix_append _ _).isInfix
  rcases hPart with ⟨before, after, rfl⟩
  exact (hAppend before part).2.trans
    (hAppend (before ++ part) after).1

------------------------------------------------------------
-- Blanks At The Ends
------------------------------------------------------------

theorem wordRuns_append_of_areBlank
    (hBlank : AreBlank back)
    (run chars : List Char) :
    wordRuns run (chars ++ back) = wordRuns run chars := by
  cases back with
  | nil => simp
  | cons c rest =>
      rcases List.forall_mem_cons.mp hBlank with
        ⟨hFirst, hRest⟩
      rw [wordRuns_append_blank hFirst,
        wordRuns_of_areBlank hRest, List.append_nil]

theorem wordRuns_of_areBlank_append
    (hBlank : AreBlank front)
    (chars : List Char) :
    wordRuns [] (front ++ chars) = wordRuns [] chars := by
  induction front with
  | nil => rfl
  | cons c rest ih =>
      rcases List.forall_mem_cons.mp hBlank with
        ⟨hFirst, hRest⟩
      rw [List.cons_append, wordRuns_nil_of_blank hFirst,
        ih hRest]

/- What is trimmed away is blank. -/
theorem exists_eq_append_trimChars (chars : List Char) :
    ∃ front back,
      chars = front ++ trimChars chars ++ back ∧
        AreBlank front ∧ AreBlank back := by
  have hTaken (chars : List Char) :
      AreBlank (chars.takeWhile isBlank) := by
    intro c hMem
    exact List.all_eq_true.mp List.all_takeWhile c hMem
  refine ⟨chars.takeWhile isBlank,
    ((trimFront chars).reverse.takeWhile isBlank).reverse,
    ?_, hTaken chars, ?_⟩
  · have hBack :
        trimChars chars ++
            ((trimFront chars).reverse.takeWhile
              isBlank).reverse =
          trimFront chars := by
      rw [trimChars, trimBack, ← List.reverse_append]
      unfold trimFront
      rw [List.takeWhile_append_dropWhile, List.reverse_reverse]
    rw [List.append_assoc, hBack]
    exact List.takeWhile_append_dropWhile.symm
  · intro c hMem
    exact hTaken _ c (List.mem_reverse.mp hMem)

/- Characters that neither begin nor end with a blank. -/
def HaveSolidEnds (chars : List Char) : Prop :=
  (∀ c ∈ chars.head?, isBlank c = false) ∧
    ∀ c ∈ chars.getLast?, isBlank c = false

theorem trimFront_eq_self
    (hFirst : ∀ c ∈ chars.head?, isBlank c = false) :
    trimFront chars = chars := by
  cases chars with
  | nil => rfl
  | cons c rest => simp [trimFront, hFirst c rfl]

/- From these there is nothing to trim. -/
theorem trimChars_eq_self
    (hEnds : HaveSolidEnds chars) :
    trimChars chars = chars := by
  have hBack : ∀ c ∈ chars.reverse.head?, isBlank c = false := by
    simpa using hEnds.2
  rw [trimChars, trimFront_eq_self hEnds.1, trimBack,
    trimFront_eq_self hBack, List.reverse_reverse]

theorem solid_head_trimFront (chars : List Char) :
    ∀ c ∈ (trimFront chars).head?, isBlank c = false := by
  intro c hMem
  rcases List.head?_eq_some_iff.mp hMem with ⟨rest, hTrim⟩
  exact isBlank_head_trimFront hTrim

/- What is trimmed has solid ends. -/
theorem haveSolidEnds_trimChars (chars : List Char) :
    HaveSolidEnds (trimChars chars) := by
  constructor
  · have hPrefix : trimChars chars <+: trimFront chars := by
      rw [← List.reverse_suffix, trimChars, trimBack,
        List.reverse_reverse]
      exact List.dropWhile_suffix isBlank
    rcases hPrefix with ⟨back, hBack⟩
    intro c hMem
    apply solid_head_trimFront chars
    rw [← hBack, List.head?_append, Option.mem_def.mp hMem]
    rfl
  · intro c hMem
    apply solid_head_trimFront (trimFront chars).reverse
    simpa [trimChars, trimBack] using hMem

/- Only blanks are trimmed away altogether. -/
theorem trimChars_eq_nil_iff :
    trimChars chars = [] ↔ AreBlank chars := by
  rcases exists_eq_append_trimChars chars with
    ⟨front, back, hChars, hFront, hBack⟩
  constructor
  · intro hNil
    rw [hNil, List.append_nil] at hChars
    rw [hChars]
    exact List.forall_mem_append.mpr ⟨hFront, hBack⟩
  · intro hBlank
    cases hTrim : trimChars chars with
    | nil => rfl
    | cons c rest =>
        have hSolid : isBlank c = false :=
          (haveSolidEnds_trimChars chars).1 c (by simp [hTrim])
        have hMem : c ∈ chars := by
          rw [hChars, hTrim]
          simp
        rw [hBlank c hMem] at hSolid
        cases hSolid

theorem toList_trim (text : String) :
    (trim text).toList = trimChars text.toList :=
  String.toList_ofList

theorem trimFront_append
    (hBlank : AreBlank front)
    (hFirst : ∀ c ∈ chars.head?, isBlank c = false) :
    trimFront (front ++ chars) = chars := by
  rw [trimFront, List.dropWhile_append_of_pos hBlank]
  exact trimFront_eq_self hFirst

theorem IsWord.haveSolidEnds
    {word : String}
    (hWord : IsWord word) :
    HaveSolidEnds word.toList :=
  ⟨fun c hMem => hWord.2 c (List.mem_of_mem_head? hMem),
    fun c hMem => hWord.2 c (List.mem_of_mem_getLast? hMem)⟩

/- What is put between two texts keeps the ends solid. -/
theorem HaveSolidEnds.append
    (hFront : HaveSolidEnds front)
    (hBack : HaveSolidEnds back)
    (hSomeFront : front ≠ [])
    (hSomeBack : back ≠ [])
    (middle : List Char) :
    HaveSolidEnds (front ++ middle ++ back) := by
  constructor
  · intro c hMem
    rw [List.append_assoc,
      List.head?_append_of_ne_nil front hSomeFront] at hMem
    exact hFront.1 c hMem
  · intro c hMem
    rw [List.getLast?_append_of_ne_nil _ hSomeBack] at hMem
    exact hBack.2 c hMem

/- Words that are joined by spaces have solid ends. -/
theorem haveSolidEnds_joinWith
    {texts : List String}
    (hWords : ∀ word ∈ texts, IsWord word) :
    HaveSolidEnds (joinWith " " texts).toList := by
  induction texts with
  | nil => simp [joinWith, HaveSolidEnds]
  | cons text rest ih =>
      rcases List.forall_mem_cons.mp hWords with
        ⟨hFirst, hRest⟩
      cases rest with
      | nil => exact hFirst.haveSolidEnds
      | cons next others =>
          have hJoined :
              (joinWith " " (text :: next :: others)).toList =
                text.toList ++ [' '] ++
                  (joinWith " " (next :: others)).toList := by
            simp [joinWith]
          have hFront : text.toList ≠ [] := by
            simpa using hFirst.1
          have hBack :
              (joinWith " " (next :: others)).toList ≠ [] := by
            simpa using joinWith_ne_empty hRest
              (List.cons_ne_nil next others)
          rw [hJoined]
          exact hFirst.haveSolidEnds.append (ih hRest) hFront
            hBack [' ']

/- So there is nothing to trim. -/
theorem trim_joinWith
    {texts : List String}
    (hWords : ∀ word ∈ texts, IsWord word) :
    trim (joinWith " " texts) = joinWith " " texts := by
  rw [trim, trimChars_eq_self (haveSolidEnds_joinWith hWords),
    String.ofList_toList]

------------------------------------------------------------
-- Lower Case
------------------------------------------------------------

/- The code points of the blank characters. -/
def blankCodes : List Nat :=
  [0x9, 0xA, 0xB, 0xC, 0xD, 0x20, 0x85, 0xA0, 0x1680, 0x2000,
    0x2001, 0x2002, 0x2003, 0x2004, 0x2005, 0x2006, 0x2007,
    0x2008, 0x2009, 0x200A, 0x2028, 0x2029, 0x202F, 0x205F,
    0x3000]

theorem mem_blankCodes
    (hBlank : isBlank c = true) :
    c.toNat ∈ blankCodes := by
  simp only [isBlank, Bool.or_eq_true, Bool.and_eq_true,
    decide_eq_true_eq, beq_iff_eq, UInt32.le_iff_toNat_le,
    ← UInt32.toNat_inj, UInt32.reduceToNat] at hBlank
  have hVal : c.val.toNat = c.toNat := rfl
  rw [hVal] at hBlank
  simp only [blankCodes, List.mem_cons, List.not_mem_nil]
  omega

theorem isCased_of_isBlank
    (hBlank : isBlank c = true) :
    isCased c = false := by
  have hListed :
      ∀ code ∈ blankCodes,
        isCased (Char.ofNat code) = false := by
    decide +kernel
  rw [← Char.ofNat_toNat c]
  exact hListed c.toNat (mem_blankCodes hBlank)

/- Lower-casing keeps blanks. -/
theorem lowerFrom_of_isBlank
    (hBlank : isBlank c = true)
    (passed rest : List Char) :
    lowerFrom passed (c :: rest) =
      c :: lowerFrom (c :: passed) rest := by
  have hListed :
      ∀ code ∈ blankCodes,
        Char.ofNat code ≠ 'İ' ∧
          Char.ofNat code ≠ 'Σ' ∧
          lowerChar (Char.ofNat code) = Char.ofNat code := by
    decide +kernel
  have hKept := hListed c.toNat (mem_blankCodes hBlank)
  rw [Char.ofNat_toNat] at hKept
  simp [lowerFrom, hKept]

/- Casing does not look past a blank. -/
theorem meetsCased_append_blank
    (hBlank : isBlank c = true)
    (chars rest : List Char) :
    meetsCased (chars ++ c :: rest) = meetsCased chars := by
  induction chars with
  | nil =>
      have hListed :
          ∀ code ∈ blankCodes,
            isCaseIgnorable (Char.ofNat code) = false := by
        decide +kernel
      have hSolid := hListed c.toNat (mem_blankCodes hBlank)
      rw [Char.ofNat_toNat] at hSolid
      simp [meetsCased, hSolid, isCased_of_isBlank hBlank]
  | cons d chars ih =>
      cases hIgnorable : isCaseIgnorable d with
      | true => simpa [meetsCased, hIgnorable] using ih
      | false => simp [meetsCased, hIgnorable]

/- A blank is no letter that another one could be joined to. -/
theorem meetsCased_append_of_areBlank
    (hBlank : AreBlank back)
    (chars : List Char) :
    meetsCased (chars ++ back) = meetsCased chars := by
  cases back with
  | nil => rw [List.append_nil]
  | cons c rest =>
      exact meetsCased_append_blank
        (List.forall_mem_cons.mp hBlank).1 chars rest

/- What was passed before a blank changes nothing. -/
theorem lowerFrom_passed_blank
    (hBlank : isBlank c = true)
    (passed earlier chars : List Char) :
    lowerFrom (passed ++ c :: earlier) chars =
      lowerFrom passed chars := by
  induction chars generalizing passed with
  | nil => rfl
  | cons d rest ih =>
      have hRest := ih (d :: passed)
      rw [List.cons_append] at hRest
      simp only [lowerFrom, hRest,
        meetsCased_append_blank hBlank]

/- Blanks that were passed long ago change nothing. -/
theorem lowerFrom_passed_append
    (hBlank : AreBlank back)
    (passed chars : List Char) :
    lowerFrom (passed ++ back) chars =
      lowerFrom passed chars := by
  cases back with
  | nil => rw [List.append_nil]
  | cons c rest =>
      exact lowerFrom_passed_blank
        (List.forall_mem_cons.mp hBlank).1 passed rest chars

/- What a blank separates is lower-cased on its own. -/
theorem lowerFrom_append_blank
    (hBlank : isBlank c = true)
    (passed front back : List Char) :
    lowerFrom passed (front ++ c :: back) =
      lowerFrom passed front ++ c :: lowerFrom [] back := by
  induction front generalizing passed with
  | nil =>
      rw [List.nil_append, lowerFrom_of_isBlank hBlank]
      exact congrArg (c :: ·)
        (lowerFrom_passed_blank hBlank [] passed back)
  | cons d front ih =>
      rw [List.cons_append]
      simp only [lowerFrom, ih, List.append_assoc,
        meetsCased_append_blank hBlank]

/- The texts around a space are lower-cased on their own. -/
theorem lowercase_append_space (left right : String) :
    lowercase (left ++ " " ++ right) =
      lowercase left ++ " " ++ lowercase right := by
  have hSpace := lowerFrom_append_blank (c := ' ') rfl []
    left.toList right.toList
  rw [← String.toList_inj]
  simp [lowercase, lowerChars, hSpace]

theorem lowerFrom_of_areBlank_append
    (hBlank : AreBlank front)
    (passed chars : List Char) :
    lowerFrom passed (front ++ chars) =
      front ++ lowerFrom (front.reverse ++ passed) chars := by
  induction front generalizing passed with
  | nil => rfl
  | cons c rest ih =>
      rcases List.forall_mem_cons.mp hBlank with
        ⟨hFirst, hRest⟩
      rw [List.cons_append, lowerFrom_of_isBlank hFirst,
        ih hRest, List.reverse_cons, List.append_assoc]
      rfl

theorem lowerFrom_append_of_areBlank
    (hBlank : AreBlank back)
    (passed chars : List Char) :
    lowerFrom passed (chars ++ back) =
      lowerFrom passed chars ++ back := by
  induction chars generalizing passed with
  | nil =>
      have hBack :=
        lowerFrom_of_areBlank_append hBlank passed []
      simpa [lowerFrom] using hBack
  | cons c rest ih =>
      rw [List.cons_append]
      simp only [lowerFrom, ih, List.append_assoc,
        meetsCased_append_of_areBlank hBlank]

/- The words of a line do not depend on blanks around it. -/
theorem words_lowercase_trim (line : String) :
    words (lowercase (trim line)) =
      words (lowercase line) := by
  rcases exists_eq_append_trimChars line.toList with
    ⟨front, back, hLine, hFront, hBack⟩
  have hLower :
      lowerChars line.toList =
        front ++ lowerChars (trimChars line.toList) ++
          back := by
    have hPassed : AreBlank front.reverse :=
      fun c hMem => hFront c (List.mem_reverse.mp hMem)
    conv => lhs; rw [hLine]
    unfold lowerChars
    rw [lowerFrom_append_of_areBlank hBack,
      lowerFrom_of_areBlank_append hFront, List.append_nil,
      ← List.nil_append front.reverse,
      lowerFrom_passed_append hPassed]
  simp only [words, lowercase, trim, String.toList_ofList]
  rw [hLower, wordRuns_append_of_areBlank hBack,
    wordRuns_of_areBlank_append hFront]

------------------------------------------------------------
-- Plain Words
------------------------------------------------------------

/- Whether a character is ASCII, and no blank or capital. -/
def isPlain (c : Char) : Bool :=
  c.toNat < 128 && !isBlank c &&
    decide (¬ ('A' ≤ c ∧ c ≤ 'Z'))

/- A word of such characters. -/
def IsPlainWord (word : String) : Prop :=
  word ≠ "" ∧ word.toList.all isPlain = true

instance (word : String) : Decidable (IsPlainWord word) :=
  inferInstanceAs (Decidable (_ ∧ _))

theorem isPlain_iff :
    isPlain c = true ↔
      c.toNat < 128 ∧ isBlank c = false ∧
        ¬ ('A' ≤ c ∧ c ≤ 'Z') := by
  simp only [isPlain, Bool.and_eq_true, decide_eq_true_eq,
    Bool.not_eq_true', and_assoc]

theorem IsPlainWord.isWord
    {word : String}
    (hWord : IsPlainWord word) :
    IsWord word := by
  refine ⟨hWord.1, ?_⟩
  intro c hMem
  exact (isPlain_iff.mp
    (List.all_eq_true.mp hWord.2 c hMem)).2.1

/- Lower-casing keeps characters of this kind. -/
theorem lowerFrom_of_plain
    (hPlain : ∀ c ∈ chars, isPlain c = true)
    (passed : List Char) :
    lowerFrom passed chars = chars := by
  induction chars generalizing passed with
  | nil => rfl
  | cons c rest ih =>
      rcases List.forall_mem_cons.mp hPlain with
        ⟨hFirst, hRest⟩
      rcases isPlain_iff.mp hFirst with
        ⟨hAscii, -, hCapital⟩
      have hDotted : c ≠ 'İ' := by
        rintro rfl
        exact absurd hAscii (by decide)
      have hSigma : c ≠ 'Σ' := by
        rintro rfl
        exact absurd hAscii (by decide)
      simp [lowerFrom, hDotted, hSigma, lowerChar, hAscii,
        hCapital, ih hRest]

theorem IsPlainWord.lowercase_eq
    {word : String}
    (hWord : IsPlainWord word) :
    lowercase word = word := by
  rw [lowercase, lowerChars,
    lowerFrom_of_plain (List.all_eq_true.mp hWord.2),
    String.ofList_toList]

/- Plain words stay as they are also when they are joined. -/
theorem lowercase_joinWith
    {texts : List String}
    (hWords : ∀ word ∈ texts, IsPlainWord word) :
    lowercase (joinWith " " texts) = joinWith " " texts := by
  induction texts with
  | nil => rfl
  | cons text rest ih =>
      rcases List.forall_mem_cons.mp hWords with
        ⟨hFirst, hRest⟩
      cases rest with
      | nil => exact hFirst.lowercase_eq
      | cons next others =>
          have hJoined :
              joinWith " " (text :: next :: others) =
                text ++ " " ++ joinWith " " (next :: others) :=
            rfl
          rw [hJoined, lowercase_append_space,
            hFirst.lowercase_eq, ih hRest]

theorem lowercase_trim_joinWith
    {texts : List String}
    (hWords : ∀ word ∈ texts, IsPlainWord word) :
    lowercase (trim (joinWith " " texts)) =
      joinWith " " texts := by
  rw [trim_joinWith (fun word hMem => (hWords word hMem).isWord),
    lowercase_joinWith hWords]

end Text

end TextAdventure
