import TextAdventure.Proofs.Text.Words
import TextAdventure.World.Basic

/-
  What a name means among the things of a world.

  A thing that is called by a name comes before one whose
  names only contain it. The name of a thing, and every part
  of it, finds something.

  Main declarations:
    * `World.Means`
    * `World.means_of_findWhere?`
    * `World.exists_means_of_infix`
-/

namespace TextAdventure

------------------------------------------------------------
-- Plain Names
------------------------------------------------------------

namespace Thing

variable {thing : Thing}
variable {words part : List String}

/- A thing is called by its own name. -/
theorem matchesExactly_name
    (hWords : ∀ word ∈ words, Text.IsPlainWord word)
    (hName : thing.name = Text.joinWith " " words) :
    thing.matchesExactly thing.name = true := by
  have hLower : Text.lowercase thing.name = thing.name := by
    rw [hName, Text.lowercase_joinWith hWords]
  simp [matchesExactly, hLower]

/- The words of a name contain those that follow in it. -/
theorem matchesPartially_of_infix
    (hWords : ∀ word ∈ words, Text.IsPlainWord word)
    (hName : thing.name = Text.joinWith " " words)
    (hPart : part <:+: words) :
    thing.matchesPartially (Text.joinWith " " part) = true := by
  rw [matchesPartially, hName, Text.lowercase_joinWith hWords,
    Text.contains_eq_true_iff.mpr (Text.infix_joinWith hPart),
    Bool.true_or]

end Thing

------------------------------------------------------------
-- What A Name Means
------------------------------------------------------------

namespace World

variable {world : World}
variable {test : Thing → Bool}
variable {name : String}
variable {thing other : Thing}

/-
  What a name means among the things that pass a test. It is
  called by that name, or if nothing is then the name is a
  part of its name or of an alias.
-/
structure Means
    (world : World)
    (test : Thing → Bool)
    (name : String)
    (thing : Thing) : Prop where
  known : thing ∈ world.things
  passes : test thing = true
  called :
    thing.matchesExactly name = true ∨
      thing.matchesPartially name = true ∧
        ∀ other ∈ world.things, test other = true →
          other.matchesExactly name = false

/- If something is called so, then so is what is meant. -/
theorem Means.matchesExactly
    (hMeans : world.Means test name thing)
    (hOther : other ∈ world.things)
    (hTest : test other = true)
    (hCalled : other.matchesExactly name = true) :
    thing.matchesExactly name = true := by
  rcases hMeans.called with hExact | ⟨-, hNone⟩
  · exact hExact
  · rw [hNone other hOther hTest] at hCalled
    cases hCalled

/- What is found by a name is meant by it. -/
theorem means_of_findWhere?
    (hFind : world.findWhere? name test = some thing) :
    world.Means test (Text.lowercase (Text.trim name))
      thing := by
  unfold findWhere? at hFind
  dsimp only at hFind
  split at hFind
  · cases hFind
  · rcases Option.or_eq_some_iff.mp hFind with
      hExact | ⟨hNone, hPartial⟩
    · have hFound := List.find?_some hExact
      rw [Bool.and_eq_true] at hFound
      exact
        { known := List.mem_of_find?_eq_some hExact
          passes := hFound.1
          called := Or.inl hFound.2 }
    · have hFound := List.find?_some hPartial
      rw [Bool.and_eq_true] at hFound
      refine
        { known := List.mem_of_find?_eq_some hPartial
          passes := hFound.1
          called := Or.inr ⟨hFound.2, ?_⟩ }
      intro other hOther hTest
      have hMiss := List.find?_eq_none.mp hNone other hOther
      simpa [hTest] using hMiss

/- Something is found by words that follow in a name. -/
theorem exists_means_of_infix
    {words part : List String}
    (hThing : thing ∈ world.things)
    (hTest : test thing = true)
    (hWords : ∀ word ∈ words, Text.IsPlainWord word)
    (hName : thing.name = Text.joinWith " " words)
    (hPart : part <:+: words)
    (hSome : part ≠ []) :
    ∃ other,
      world.findWhere? (Text.joinWith " " part) test =
          some other ∧
        world.Means test (Text.joinWith " " part) other := by
  have hPlain : ∀ word ∈ part, Text.IsPlainWord word :=
    fun word hMem => hWords word (hPart.subset hMem)
  have hTyped : ∀ word ∈ part, Text.IsWord word :=
    fun word hMem => (hPlain word hMem).isWord
  have hSelf := Text.lowercase_trim_joinWith hPlain
  have hMatches :=
    Thing.matchesPartially_of_infix hWords hName hPart
  have hFound :
      (world.findWhere? (Text.joinWith " " part)
        test).isSome = true := by
    unfold findWhere?
    rw [hSelf, if_neg (Text.joinWith_ne_empty hTyped hSome),
      Option.isSome_or, Bool.or_eq_true, List.find?_isSome,
      List.find?_isSome]
    exact Or.inr ⟨thing, hThing, by simp [hTest, hMatches]⟩
  rcases Option.isSome_iff_exists.mp hFound with
    ⟨other, hOther⟩
  have hMeans := means_of_findWhere? hOther
  rw [hSelf] at hMeans
  exact ⟨other, hOther, hMeans⟩

end World

end TextAdventure
