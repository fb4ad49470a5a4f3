import Mathlib.Data.List.TakeWhile
import TextAdventure.Play.Turn
import TextAdventure.Proofs.Text.Words

/-
  The grammar of commands.

  A line is read word by word: nothing, a direction, a phrase
  of several words that means a verb, or a single word for
  one. What follows a verb is its objects, which are kept word
  for word and split at the first preposition after the first
  word. That the phrases are looked for in the joined words,
  and the rest is split again, makes no difference.

  Main declarations:
    * `Command.HasObjects`
    * `Command.hasObjects_withObjects`
    * `Command.phraseOf?_joinWith_eq_some_iff`
    * `Command.IsReadAs`
    * `Command.ofLine_follows_grammar`
    * `Command.ofLine_look`
    * `Command.ofLine_examine`
-/

namespace TextAdventure

namespace Command

variable {phrase : String}
variable {verb : Verb}
variable {words objects : List String}

------------------------------------------------------------
-- Objects
------------------------------------------------------------

/- Words of which none may stand between two nouns. -/
def HaveNoPreposition (words : List String) : Prop :=
  ∀ word ∈ words, isPreposition word = false

theorem find?_eq_none_iff_haveNoPreposition :
    words.find? isPreposition = none ↔
      HaveNoPreposition words := by
  simp [HaveNoPreposition]

/- They are passed by on the way to a preposition. -/
theorem HaveNoPreposition.passed
    (hNone : HaveNoPreposition words) :
    ∀ word ∈ words, (!isPreposition word) = true := by
  intro word hMem
  rw [hNone word hMem]
  rfl

/- The parts of a command that follow its verb, in order. -/
def objectParts (command : Command) : List String :=
  command.noun.toList ++ command.preposition.toList ++
    command.secondNoun.toList

/-
  The objects of a command are some words: all of them in
  their order, split at the first preposition after the first
  word.
-/
structure HasObjects
    (objects : List String)
    (command : Command) : Prop where
  text :
    Text.joinWith " " command.objectParts =
      Text.joinWith " " objects
  words :
    Text.words (Text.joinWith " " command.objectParts) =
      objects
  noun : command.noun.isSome = true ↔ objects ≠ []
  nounWords :
    ∀ noun, command.noun = some noun →
      HaveNoPreposition (Text.words noun).tail
  preposition :
    command.preposition = objects.tail.find? isPreposition
  secondNoun :
    command.secondNoun.isSome = true ↔
      ∃ before word after,
        objects.tail = before ++ word :: after ∧
          HaveNoPreposition before ∧
          isPreposition word = true ∧
          after ≠ []

/- Without a preposition all words are one noun. -/
theorem withObjects_of_haveNoPreposition
    {others : List String}
    (hNone : HaveNoPreposition others)
    (verb raw first : String) :
    withObjects verb raw (first :: others) =
      { verb
        raw
        noun :=
          some (Text.joinWith " " (first :: others)) } := by
  have hTaken := List.takeWhile_eq_self_iff.mpr hNone.passed
  have hDropped := List.dropWhile_eq_nil_iff.mpr hNone.passed
  simp [withObjects, hTaken, hDropped, nounOfWords?]

/- The words from the first preposition on. -/
theorem dropWhile_of_split
    {before after : List String}
    {word : String}
    (hBefore : HaveNoPreposition before)
    (hWord : isPreposition word = true) :
    (before ++ word :: after).dropWhile
        (fun word => !isPreposition word) =
      word :: after := by
  rw [List.dropWhile_append_of_pos hBefore.passed]
  simp [hWord]

/- The first preposition stands between the nouns. -/
theorem withObjects_of_split
    {before after : List String}
    {word : String}
    (hBefore : HaveNoPreposition before)
    (hWord : isPreposition word = true)
    (verb raw first : String) :
    withObjects verb raw
        (first :: (before ++ word :: after)) =
      { verb
        raw
        noun := some (Text.joinWith " " (first :: before))
        preposition := some word
        secondNoun := nounOfWords? after } := by
  have hTaken :
      (before ++ word :: after).takeWhile
          (fun word => !isPreposition word) =
        before := by
    rw [List.takeWhile_append_of_pos hBefore.passed]
    simp [hWord]
  simp [withObjects, hTaken, nounOfWords?,
    dropWhile_of_split hBefore hWord]

/- Nouns on both sides of a preposition give back the words. -/
theorem joinWith_nouns
    {before after : List String}
    (hBefore : before ≠ [])
    (word : String) :
    Text.joinWith " "
        (Text.joinWith " " before ::
          word :: (nounOfWords? after).toList) =
      Text.joinWith " " (before ++ word :: after) := by
  rw [Text.joinWith_append " " hBefore
    (List.cons_ne_nil word after)]
  cases after <;> rfl

theorem isSome_nounOfWords?
    (words : List String) :
    (nounOfWords? words).isSome = true ↔ words ≠ [] := by
  cases words <;> simp [nounOfWords?]

theorem hasObjects_of_haveNoPreposition
    {first : String}
    {others : List String}
    (hWords : ∀ word ∈ first :: others, Text.IsWord word)
    (hNone : HaveNoPreposition others)
    (verb raw : String) :
    HasObjects (first :: others)
      (withObjects verb raw (first :: others)) := by
  have hRead := Text.words_joinWith hWords
  rw [withObjects_of_haveNoPreposition hNone]
  refine
    { text := rfl
      words := hRead
      noun := by simp
      nounWords := ?_
      preposition := ?_
      secondNoun := ?_ }
  · intro noun hNoun word hMem
    simp only [Option.some.injEq] at hNoun
    subst hNoun
    rw [hRead] at hMem
    exact hNone word hMem
  · exact (find?_eq_none_iff_haveNoPreposition.mpr hNone).symm
  · simp only [Option.isSome_none, Bool.false_eq_true,
      false_iff]
    rintro ⟨before, word, after, hSplit, -, hWord, -⟩
    have hMem : word ∈ others := by
      rw [show others = before ++ word :: after from hSplit]
      simp
    simp [hNone word hMem] at hWord

theorem hasObjects_of_split
    {first word : String}
    {before after : List String}
    (hWords :
      ∀ other ∈ first :: (before ++ word :: after),
        Text.IsWord other)
    (hBefore : HaveNoPreposition before)
    (hWord : isPreposition word = true)
    (verb raw : String) :
    HasObjects (first :: (before ++ word :: after))
      (withObjects verb raw
        (first :: (before ++ word :: after))) := by
  have hText :
      Text.joinWith " "
          (Text.joinWith " " (first :: before) ::
            word :: (nounOfWords? after).toList) =
        Text.joinWith " " (first :: before ++ word :: after) :=
    joinWith_nouns (List.cons_ne_nil first before) word
  rw [withObjects_of_split hBefore hWord]
  refine
    { text := hText
      words := ?_
      noun := by simp
      nounWords := ?_
      preposition := ?_
      secondNoun := ?_ }
  · exact (congrArg Text.words hText).trans
      (Text.words_joinWith hWords)
  · intro noun hNoun earlier hMem
    simp only [Option.some.injEq] at hNoun
    subst hNoun
    have hFront : ∀ other ∈ first :: before,
        Text.IsWord other := by
      intro other hOther
      apply hWords
      rw [← List.cons_append]
      exact List.mem_append_left _ hOther
    rw [Text.words_joinWith hFront] at hMem
    exact hBefore earlier hMem
  · have hSkipped :=
      find?_eq_none_iff_haveNoPreposition.mpr hBefore
    simp [List.find?_append, hSkipped, hWord]
  · rw [isSome_nounOfWords?]
    constructor
    · intro hAfter
      exact ⟨before, word, after, rfl, hBefore, hWord,
        hAfter⟩
    · rintro ⟨front, other, back, hSplit, hFront, hOther,
        hBack⟩
      have hSame :
          word :: after = other :: back := by
        rw [← dropWhile_of_split hBefore hWord,
          ← dropWhile_of_split hFront hOther]
        exact congrArg _ hSplit
      rw [(List.cons.inj hSame).2]
      exact hBack

/- The objects of a verb are all the words after it. -/
theorem hasObjects_withObjects
    (hWords : ∀ word ∈ objects, Text.IsWord word)
    (verb raw : String) :
    HasObjects objects (withObjects verb raw objects) := by
  cases objects with
  | nil =>
      constructor
      · rfl
      · rfl
      all_goals simp [withObjects]
  | cons first others =>
      cases hFind : others.find? isPreposition with
      | none =>
          have hNone :=
            find?_eq_none_iff_haveNoPreposition.mp hFind
          exact hasObjects_of_haveNoPreposition hWords hNone
            verb raw
      | some word =>
          rcases List.find?_eq_some_iff_append.mp hFind with
            ⟨hWord, before, after, rfl, hBefore⟩
          have hNone : HaveNoPreposition before := by
            simpa [HaveNoPreposition] using hBefore
          exact hasObjects_of_split hWords hNone hWord
            verb raw

------------------------------------------------------------
-- Phrases
------------------------------------------------------------

/- A phrase is made of words with single spaces between. -/
def IsPhrase (phrase : String) : Prop :=
  Text.words phrase ≠ [] ∧
    Text.joinWith " " (Text.words phrase) = phrase

instance (phrase : String) : Decidable (IsPhrase phrase) :=
  inferInstanceAs (Decidable (_ ∧ _))

theorem isPhrase_of_mem
    {entry : String × Verb}
    (hMem : entry ∈ phrases) :
    IsPhrase entry.1 := by
  have hListed : ∀ entry ∈ phrases, IsPhrase entry.1 := by
    decide +kernel
  exact hListed entry hMem

/- No phrase begins with the words of another one. -/
theorem eq_of_isPrefix
    {entry other : String × Verb}
    (hEntry : entry ∈ phrases)
    (hOther : other ∈ phrases)
    (hPrefix :
      Text.words entry.1 <+: Text.words other.1) :
    entry = other := by
  have hListed :
      ∀ entry ∈ phrases, ∀ other ∈ phrases,
        Text.words entry.1 <+: Text.words other.1 →
          entry = other := by
    decide +kernel
  exact hListed entry hEntry other hOther hPrefix

/- At most one phrase stands at the beginning of a line. -/
theorem eq_of_begins
    {entry other : String × Verb}
    (hEntry : entry ∈ phrases)
    (hOther : other ∈ phrases)
    (hFirst : Text.words entry.1 <+: words)
    (hSecond : Text.words other.1 <+: words) :
    entry = other := by
  rcases List.prefix_or_prefix_of_prefix hFirst hSecond with
    hPrefix | hPrefix
  · exact eq_of_isPrefix hEntry hOther hPrefix
  · exact (eq_of_isPrefix hOther hEntry hPrefix).symm

/- A phrase ends with the line, or a space follows it. -/
theorem wordsAfter?_eq_some_iff
    {line : String} :
    wordsAfter? phrase line = some objects ↔
      (line = phrase ∧ objects = []) ∨
        ∃ rest, line = phrase ++ " " ++ rest ∧
          objects = Text.words rest := by
  have hEqual (left right : String) :
      left = right ↔ left.toList = right.toList :=
    String.toList_inj.symm
  constructor
  · intro hAfter
    unfold wordsAfter? at hAfter
    split at hAfter
    · rename_i hStrip
      have hLine := Text.stripStart?_eq_some_iff.mp hStrip
      left
      rw [hEqual]
      exact ⟨by simpa using hLine,
        (Option.some.inj hAfter).symm⟩
    · rename_i c rest hStrip
      have hLine := Text.stripStart?_eq_some_iff.mp hStrip
      split at hAfter
      · rename_i hSpace
        subst hSpace
        rw [Text.words_ofList_space] at hAfter
        right
        refine ⟨String.ofList rest, ?_,
          (Option.some.inj hAfter).symm⟩
        rw [hEqual]
        simpa using hLine
      · cases hAfter
    · cases hAfter
  · rintro (⟨rfl, rfl⟩ | ⟨rest, rfl, rfl⟩)
    · have hStrip :=
        Text.stripStart?_eq_some_iff.mpr
          (List.append_nil line.toList).symm
      simp [wordsAfter?, hStrip]
    · have hStrip :
          Text.stripStart? phrase.toList
              (phrase ++ " " ++ rest).toList =
            some (' ' :: rest.toList) :=
        Text.stripStart?_eq_some_iff.mpr (by simp)
      simp only [wordsAfter?, hStrip, if_true,
        Text.words_ofList_space, String.ofList_toList]

/- The words do not begin with a phrase. -/
def HasNoPhrase (words : List String) : Prop :=
  ∀ entry ∈ phrases, ¬ Text.words entry.1 <+: words

/-
  A phrase that ends where a word ends is found in the text
  of a line exactly when the words begin with its words.
-/
theorem wordsAfter?_joinWith_eq_some_iff
    (hPhrase : IsPhrase phrase)
    (hWords : ∀ word ∈ words, Text.IsWord word) :
    wordsAfter? phrase (Text.joinWith " " words) =
        some objects ↔
      words = Text.words phrase ++ objects := by
  have hRead := Text.words_joinWith hWords
  rw [wordsAfter?_eq_some_iff]
  constructor
  · rintro (⟨hLine, rfl⟩ | ⟨rest, hLine, rfl⟩)
    · rw [← hRead, hLine, List.append_nil]
    · rw [← hRead, hLine, Text.words_append_space]
  · intro hSplit
    subst hSplit
    cases objects with
    | nil =>
        left
        rw [List.append_nil]
        exact ⟨hPhrase.2, rfl⟩
    | cons object others =>
        have hObjects : ∀ word ∈ object :: others,
            Text.IsWord word :=
          fun word hMem =>
            hWords word (List.mem_append_right _ hMem)
        right
        refine ⟨Text.joinWith " " (object :: others), ?_,
          (Text.words_joinWith hObjects).symm⟩
        rw [Text.joinWith_append " " hPhrase.1
          (List.cons_ne_nil object others), hPhrase.2]

/- The verb of the one phrase in front. -/
theorem phraseOf?_joinWith_eq_some_iff
    (hWords : ∀ word ∈ words, Text.IsWord word) :
    phraseOf? (Text.joinWith " " words) =
        some (verb, objects) ↔
      ∃ phrase, (phrase, verb) ∈ phrases ∧
        words = Text.words phrase ++ objects := by
  have hFound
      {verb : Verb}
      {objects : List String}
      (hSome :
        phraseOf? (Text.joinWith " " words) =
          some (verb, objects)) :
      ∃ phrase, (phrase, verb) ∈ phrases ∧
        words = Text.words phrase ++ objects := by
    rcases List.exists_of_findSome?_eq_some hSome with
      ⟨⟨phrase, other⟩, hMem, hAfter⟩
    rcases Option.map_eq_some_iff.mp hAfter with
      ⟨rest, hRest, hPair⟩
    simp only [Prod.mk.injEq] at hPair
    rcases hPair with ⟨rfl, rfl⟩
    exact ⟨phrase, hMem,
      (wordsAfter?_joinWith_eq_some_iff (isPhrase_of_mem hMem)
        hWords).mp hRest⟩
  constructor
  · exact hFound
  · rintro ⟨phrase, hMem, hSplit⟩
    have hAfter :=
      (wordsAfter?_joinWith_eq_some_iff (isPhrase_of_mem hMem)
        hWords).mpr hSplit
    cases hSome : phraseOf? (Text.joinWith " " words) with
    | none =>
        have hNone :=
          List.findSome?_eq_none_iff.mp hSome _ hMem
        simp [hAfter] at hNone
    | some found =>
        rcases hFound hSome with ⟨other, hOther, hSame⟩
        -- The first phrase that is found is the only one.
        have hEntry := eq_of_begins hMem hOther
          ⟨objects, hSplit.symm⟩ ⟨found.2, hSame.symm⟩
        simp only [Prod.mk.injEq] at hEntry
        rcases hEntry with ⟨rfl, rfl⟩
        rw [hSplit, List.append_cancel_left_eq] at hSame
        rw [hSame]

theorem phraseOf?_joinWith_eq_none
    (hWords : ∀ word ∈ words, Text.IsWord word)
    (hNone : HasNoPhrase words) :
    phraseOf? (Text.joinWith " " words) = none := by
  rw [Option.eq_none_iff_forall_ne_some]
  rintro ⟨verb, objects⟩ hSome
  rcases (phraseOf?_joinWith_eq_some_iff hWords).mp hSome with
    ⟨phrase, hMem, hSplit⟩
  exact hNone _ hMem ⟨objects, hSplit.symm⟩

------------------------------------------------------------
-- Lines
------------------------------------------------------------

/- A word that is no name of a verb is no verb. -/
theorem ofName?_eq_none_of_ofAlias?
    {word : String}
    (hNone : Verb.ofAlias? word = none) :
    Verb.ofName? word = none := by
  cases hName : Verb.ofName? word with
  | none => rfl
  | some verb => simp [Verb.ofAlias?, hName] at hNone

@[simp] theorem verb_withObjects
    (verb raw : String)
    (objects : List String) :
    (withObjects verb raw objects).verb = verb := by
  cases objects <;> rfl

@[simp] theorem raw_withObjects
    (verb raw : String)
    (objects : List String) :
    (withObjects verb raw objects).raw = raw := by
  cases objects <;> rfl

/-
  How words in lower case are read as a command. With no
  words it is to look, and a direction in front is to go
  there. The words of a phrase in front, which is the only
  such phrase, are its verb. Otherwise the first word is the
  verb that it is a name of, or it is kept, and then no scene
  takes it for a verb. The words after the verb are the
  objects.
-/
inductive IsReadAs (raw : String) :
    List String → Command → Prop where
| nothing :
    IsReadAs raw [] { verb := Verb.name .look, raw }
| direction
    {first : String}
    {rest : List String}
    {direction : Direction}
    (hDirection : Direction.ofWord? first = some direction) :
    IsReadAs raw (first :: rest)
      { verb := Verb.name .go
        noun := some direction.name
        raw }
| phrase
    {phrase first : String}
    {rest objects : List String}
    {verb : Verb}
    {command : Command}
    (hDirection : Direction.ofWord? first = none)
    (hPhrase : (phrase, verb) ∈ phrases)
    (hWords : first :: rest = Text.words phrase ++ objects)
    (hOnly :
      ∀ other ∈ phrases,
        Text.words other.1 <+: first :: rest →
          other = (phrase, verb))
    (hRaw : command.raw = raw)
    (hVerb : command.verb = verb.name)
    (hObjects : HasObjects objects command) :
    IsReadAs raw (first :: rest) command
| known
    {first : String}
    {rest : List String}
    {verb : Verb}
    {command : Command}
    (hDirection : Direction.ofWord? first = none)
    (hNone : HasNoPhrase (first :: rest))
    (hAlias : Verb.ofAlias? first = some verb)
    (hRaw : command.raw = raw)
    (hVerb : command.verb = verb.name)
    (hObjects : HasObjects rest command) :
    IsReadAs raw (first :: rest) command
| unknown
    {first : String}
    {rest : List String}
    {command : Command}
    (hDirection : Direction.ofWord? first = none)
    (hNone : HasNoPhrase (first :: rest))
    (hAlias : Verb.ofAlias? first = none)
    (hRaw : command.raw = raw)
    (hVerb : command.verb = first)
    (hRefused :
      ∀ (scene : Scene) (limit : UInt64),
        scene.perform limit command =
          .refused scene (.unknownVerb first))
    (hObjects : HasObjects rest command) :
    IsReadAs raw (first :: rest) command

theorem isReadAs_of_phrase
    {phrase first : String}
    {rest : List String}
    (hWords : ∀ word ∈ first :: rest, Text.IsWord word)
    (hDirection : Direction.ofWord? first = none)
    (hMem : (phrase, verb) ∈ phrases)
    (hSplit : first :: rest = Text.words phrase ++ objects)
    (raw : String) :
    IsReadAs raw (first :: rest)
      (ofWords raw (first :: rest)) := by
  have hPhrase :=
    (phraseOf?_joinWith_eq_some_iff hWords).mpr
      ⟨phrase, hMem, hSplit⟩
  have hCommand :
      ofWords raw (first :: rest) =
        withObjects verb.name raw objects := by
    simp [ofWords, hDirection, verbAndObjects, hPhrase]
  have hObjects : ∀ word ∈ objects, Text.IsWord word := by
    intro word hMem
    apply hWords
    rw [hSplit]
    exact List.mem_append_right _ hMem
  rw [hCommand]
  refine .phrase hDirection hMem hSplit ?_
    (raw_withObjects _ _ _) (verb_withObjects _ _ _)
    (hasObjects_withObjects hObjects _ _)
  intro other hOther hBegins
  exact eq_of_begins hOther hMem hBegins
    ⟨objects, hSplit.symm⟩

/- Without a phrase in front the first word is the verb. -/
theorem ofWords_of_hasNoPhrase
    {first : String}
    {rest : List String}
    (hWords : ∀ word ∈ first :: rest, Text.IsWord word)
    (hDirection : Direction.ofWord? first = none)
    (hNone : HasNoPhrase (first :: rest))
    (raw : String) :
    ofWords raw (first :: rest) =
      withObjects (verbOfWord first) raw rest := by
  have hPhrase := phraseOf?_joinWith_eq_none hWords hNone
  simp [ofWords, hDirection, verbAndObjects, hPhrase]

theorem isReadAs_of_hasNoPhrase
    {first : String}
    {rest : List String}
    (hWords : ∀ word ∈ first :: rest, Text.IsWord word)
    (hDirection : Direction.ofWord? first = none)
    (hNone : HasNoPhrase (first :: rest))
    (raw : String) :
    IsReadAs raw (first :: rest)
      (ofWords raw (first :: rest)) := by
  have hObjects :=
    hasObjects_withObjects (List.forall_mem_cons.mp hWords).2
      (verbOfWord first) raw
  rw [ofWords_of_hasNoPhrase hWords hDirection hNone]
  cases hAlias : Verb.ofAlias? first with
  | some verb =>
      refine .known hDirection hNone hAlias
        (raw_withObjects _ _ _) ?_ hObjects
      simp [verbOfWord, hAlias]
  | none =>
      have hName := ofName?_eq_none_of_ofAlias? hAlias
      have hVerb : verbOfWord first = first := by
        simp [verbOfWord, hAlias]
      refine .unknown hDirection hNone hAlias
        (raw_withObjects _ _ _) ?_ ?_ hObjects
      · simp [hVerb]
      · intro scene limit
        simp [Scene.perform, hVerb, hName]

/- Every line is read by the one grammar of commands. -/
theorem ofLine_follows_grammar (line : String) :
    IsReadAs line (Text.words (Text.lowercase line))
      (ofLine line) := by
  have hWords :
      ∀ word ∈ Text.words (Text.lowercase line),
        Text.IsWord word :=
    fun word hMem => Text.isWord_of_mem_words hMem
  rw [ofLine, Text.words_lowercase_trim]
  generalize Text.words (Text.lowercase line) = words at *
  cases words with
  | nil => exact .nothing
  | cons first rest =>
      cases hDirection : Direction.ofWord? first with
      | some direction =>
          have hCommand :
              ofWords line (first :: rest) =
                { verb := Verb.name .go
                  noun := some direction.name
                  raw := line } := by
            simp [ofWords, hDirection]
          rw [hCommand]
          exact .direction hDirection
      | none =>
          by_cases hPhrase : HasNoPhrase (first :: rest)
          · exact isReadAs_of_hasNoPhrase hWords hDirection
              hPhrase line
          · simp only [HasNoPhrase, not_forall, not_not]
              at hPhrase
            rcases hPhrase with
              ⟨⟨phrase, verb⟩, hMem, objects, hSplit⟩
            exact isReadAs_of_phrase hWords hDirection hMem
              hSplit.symm line

------------------------------------------------------------
-- The Name Of A Verb In Front
------------------------------------------------------------

/- The words after which "look" is more than its name. -/
def lookParticles : List String := ["at", "in", "under"]

/- Only the phrases with these words begin with "look". -/
theorem hasNoPhrase_look
    (hFirst : ∀ first ∈ words.head?, first ∉ lookParticles) :
    HasNoPhrase (Verb.look.name :: words) := by
  have hListed :
      ∀ entry ∈ phrases,
        (Text.words entry.1).head? ≠ some Verb.look.name ∨
          ∃ particle ∈ lookParticles,
            Text.words entry.1 =
              [Verb.look.name, particle] := by
    decide +kernel
  rintro entry hMem ⟨rest, hSplit⟩
  rcases hListed entry hMem with
    hOther | ⟨particle, hParticle, hWords⟩
  · cases hWords : Text.words entry.1 with
    | nil => exact (isPhrase_of_mem hMem).1 hWords
    | cons first others =>
        rw [hWords, List.cons_append, List.cons.injEq]
          at hSplit
        exact hOther (by simp [hWords, hSplit.1])
  · rw [hWords] at hSplit
    have hHead : words.head? = some particle := by
      rw [← (List.cons.inj hSplit).2]
      rfl
    exact hFirst particle hHead hParticle

/- No phrase begins with "examine". -/
theorem hasNoPhrase_examine (words : List String) :
    HasNoPhrase (Verb.examine.name :: words) := by
  have hListed :
      ∀ entry ∈ phrases, ∀ first ∈ (Text.words entry.1).head?,
        first ≠ Verb.examine.name := by
    decide +kernel
  rintro entry hMem ⟨rest, hSplit⟩
  cases hWords : Text.words entry.1 with
  | nil => exact (isPhrase_of_mem hMem).1 hWords
  | cons first others =>
      rw [hWords, List.cons_append, List.cons.injEq] at hSplit
      exact hListed entry hMem first (by simp [hWords])
        hSplit.1

/- A line that begins with the name of a verb. -/
theorem ofLine_name_append
    {text : String}
    (hNone :
      HasNoPhrase
        (verb.name :: Text.words (Text.lowercase text))) :
    ofLine (verb.name ++ " " ++ text) =
      withObjects verb.name (verb.name ++ " " ++ text)
        (Text.words (Text.lowercase text)) := by
  have hName :
      Text.words (Text.lowercase verb.name) = [verb.name] := by
    cases verb <;> decide +kernel
  have hDirection : Direction.ofWord? verb.name = none := by
    cases verb <;> decide
  have hAlias : verbOfWord verb.name = verb.name := by
    simp [verbOfWord, Verb.ofAlias?]
  have hRead :
      Text.words
          (Text.lowercase (verb.name ++ " " ++ text)) =
        verb.name :: Text.words (Text.lowercase text) := by
    rw [Text.lowercase_append_space, Text.words_append_space,
      hName, List.singleton_append]
  have hWords :
      ∀ word ∈ verb.name :: Text.words (Text.lowercase text),
        Text.IsWord word := by
    intro word hMem
    rw [← hRead] at hMem
    exact Text.isWord_of_mem_words hMem
  rw [ofLine, Text.words_lowercase_trim, hRead,
    ofWords_of_hasNoPhrase hWords hDirection hNone, hAlias]

theorem ofLine_look
    {text : String}
    (hFirst :
      ∀ first ∈ (Text.words (Text.lowercase text)).head?,
        first ∉ lookParticles) :
    ofLine ("look " ++ text) =
      withObjects Verb.look.name ("look " ++ text)
        (Text.words (Text.lowercase text)) := by
  have hText : Verb.look.name ++ " " = "look " := by decide
  have hLine := ofLine_name_append (hasNoPhrase_look hFirst)
  rw [hText] at hLine
  exact hLine

theorem ofLine_examine (text : String) :
    ofLine ("examine " ++ text) =
      withObjects Verb.examine.name ("examine " ++ text)
        (Text.words (Text.lowercase text)) := by
  have hText : Verb.examine.name ++ " " = "examine " := by
    decide
  have hLine :=
    ofLine_name_append
      (hasNoPhrase_examine
        (Text.words (Text.lowercase text)))
  rw [hText] at hLine
  exact hLine

theorem verb_ofLine_look
    {text : String}
    (hFirst :
      ∀ first ∈ (Text.words (Text.lowercase text)).head?,
        first ∉ lookParticles) :
    (ofLine ("look " ++ text)).verb = Verb.look.name := by
  rw [ofLine_look hFirst, verb_withObjects]

theorem verb_ofLine_examine (text : String) :
    (ofLine ("examine " ++ text)).verb = Verb.examine.name := by
  rw [ofLine_examine, verb_withObjects]

/- To look at something and to examine it have one noun. -/
theorem noun_ofLine_look
    {text : String}
    (hFirst :
      ∀ first ∈ (Text.words (Text.lowercase text)).head?,
        first ∉ lookParticles) :
    (ofLine ("look " ++ text)).noun =
      (ofLine ("examine " ++ text)).noun := by
  rw [ofLine_look hFirst, ofLine_examine]
  cases Text.words (Text.lowercase text) <;> rfl

end Command

end TextAdventure
