import TextAdventure.Text.Blank
import TextAdventure.Text.Similarity
import TextAdventure.Thing.Basic

/-
  Nouns: the words by which a player means a thing.

  Articles and stray prepositions in front of a noun are
  skipped. For a noun that nothing is called by, the thing
  with the most similar name may be suggested.

  Key definitions include:
    * `Noun.stripFillers`
    * `Noun.similarity`
    * `Noun.suggest?`
-/

namespace TextAdventure

namespace Noun

------------------------------------------------------------
-- Fillers
------------------------------------------------------------

/- Leading words that do not name anything. -/
def fillers : List String :=
  ["the", "a", "an", "some", "on", "at", "to", "into"]

/- What stands before and after the first space. -/
def splitSpace? : List Char → Option (List Char × List Char)
| [] => none
| c :: rest =>
    if c = ' ' then
      some ([], rest)
    else
      (splitSpace? rest).map (fun parts =>
        (c :: parts.1, parts.2))

/- A split is at the first space, which is left out. -/
theorem eq_of_splitSpace?
    {chars word rest : List Char}
    (hSplit : splitSpace? chars = some (word, rest)) :
    chars = word ++ ' ' :: rest ∧ ' ' ∉ word := by
  induction chars generalizing word with
  | nil => simp [splitSpace?] at hSplit
  | cons c chars ih =>
      unfold splitSpace? at hSplit
      split at hSplit
      · rename_i hSpace
        simp only [Option.some.injEq, Prod.mk.injEq] at hSplit
        obtain ⟨rfl, rfl⟩ := hSplit
        simp [hSpace]
      · rename_i hOther
        obtain ⟨parts, hParts, hEq⟩ :=
          Option.map_eq_some_iff.1 hSplit
        simp only [Prod.mk.injEq] at hEq
        obtain ⟨rfl, rfl⟩ := hEq
        have hRest := ih hParts
        exact ⟨by rw [hRest.1]; rfl,
          by simp [Ne.symm hOther, hRest.2]⟩

/- The rest after a split is shorter. -/
theorem length_of_splitSpace?
    {chars word rest : List Char}
    (hSplit : splitSpace? chars = some (word, rest)) :
    rest.length < chars.length := by
  rw [(eq_of_splitSpace? hSplit).1]
  simp
  omega

/- Trimming in front makes nothing longer. -/
theorem length_trimFront_le (chars : List Char) :
    (Text.trimFront chars).length ≤ chars.length :=
  (List.dropWhile_suffix Text.isBlank).length_le

/- Drop filler words in front while a word follows. -/
def dropFillers (chars : List Char) : List Char :=
  match _hSplit : splitSpace? chars with
  | none => chars
  | some (word, rest) =>
      if fillers.contains (String.ofList word) then
        dropFillers (Text.trimFront rest)
      else
        chars
termination_by chars.length
decreasing_by
  exact Nat.lt_of_le_of_lt (length_trimFront_le rest)
    (length_of_splitSpace? _hSplit)

/- A noun without the filler words in front. -/
def stripFillers (noun : String) : String :=
  String.ofList (dropFillers (Text.trimChars noun.toList))

------------------------------------------------------------
-- Suggestions
------------------------------------------------------------

/- The similarity from which a thing may be suggested. -/
def suggestionThreshold : Float := 0.85

/- The larger of two scores. -/
def higher (score other : Float) : Float :=
  if score < other then other else score

/- How similar the best name of a thing is to a text. -/
def similarity (text : String) (thing : Thing) : Float :=
  (thing.name :: thing.aliases).foldl
    (fun score name =>
      higher score
        (Text.jaroWinkler text (Text.lowercase name)))
    0.0

/- The better of a candidate and the best one so far. -/
def better
    (text : String)
    (best : Option (Thing × Float))
    (thing : Thing) : Option (Thing × Float) :=
  let score := similarity text thing
  if suggestionThreshold ≤ score then
    match best with
    | none => some (thing, score)
    | some (_, top) =>
        if top < score then some (thing, score) else best
  else
    best

/-
  The name of the thing most similar to a text, if one is
  similar enough. Of equally similar things the first wins.
-/
def suggest? (text : String) (things : List Thing) :
    Option String :=
  (things.foldl (better (Text.lowercase text)) none).map
    (fun best => best.1.name)

end Noun

end TextAdventure
