import TextAdventure.Proofs.Dict
import TextAdventure.Proofs.Scene.Solving

/-
  Puzzles whose effects do no more than raise flags.

  If conditions on such flags expect them to be raised, then
  solving a puzzle never takes back what another one needs.
  So an evaluation solves the least set of puzzles that leaves
  none to be solved, whatever the order of the puzzles.

  Main declarations:
    * `Effect.raised?`
    * `Scene.OnlyRaises`
    * `Scene.Raises`
    * `Scene.Raises.holds_mono`
    * `Scene.IsClosed`
    * `Scene.Solves.subset_of_isClosed`
    * `Scene.Solves.isClosed`
    * `Scene.evaluatePuzzles_solves_least`
-/

namespace TextAdventure

------------------------------------------------------------
-- Raised Flags
------------------------------------------------------------

/- The flag that an effect raises, if that is what it does. -/
def Effect.raised? : Effect → Option String
| .triggerEvent event => some (eventFlag event)
| .setFlag flag (.boolean true) => some flag
| _ => none

/- Whether an effect does no more than raise a flag. -/
def Effect.OnlyRaises (effect : Effect) : Prop :=
  effect.raised?.isSome = true

instance (effect : Effect) : Decidable effect.OnlyRaises :=
  inferInstanceAs (Decidable (effect.raised?.isSome = true))

/- The flags that the effects of a puzzle raise. -/
def Puzzle.raised (puzzle : Puzzle) : List String :=
  puzzle.effects.filterMap Effect.raised?

namespace Scene

/-
  All that the effects of the puzzles do is raise flags, and a
  condition on such a flag expects it to be raised.
-/
structure OnlyRaises (scene : Scene) : Prop where
  effects :
    ∀ puzzle ∈ scene.world.puzzles,
      ∀ effect ∈ puzzle.effects, effect.OnlyRaises
  conditions :
    ∀ puzzle ∈ scene.world.puzzles,
      ∀ condition ∈ puzzle.conditions,
        condition.kind = .flag →
          (∃ other ∈ scene.world.puzzles,
            condition.target ∈ other.raised) →
          condition.value = .boolean true

/-
  A scene differs from another for conditions at most in that
  some flags have been raised.
-/
structure Raises
    (scene : Scene)
    (raised : List String)
    (after : Scene) : Prop where
  things : after.world.things = scene.world.things
  inventory : after.session.inventory = scene.session.inventory
  currentRoom :
    after.session.currentRoom = scene.session.currentRoom
  flag? :
    ∀ flag,
      after.session.flag? flag =
        if flag ∈ raised then some (.boolean true)
        else scene.session.flag? flag

namespace Raises

variable {scene after last left right : Scene}
variable {earlier later fewer more : List String}

theorem none (scene : Scene) : scene.Raises [] scene where
  things := rfl
  inventory := rfl
  currentRoom := rfl
  flag? := by simp

theorem trans
    (hEarlier : scene.Raises earlier after)
    (hLater : after.Raises later last) :
    scene.Raises (earlier ++ later) last where
  things := hLater.things.trans hEarlier.things
  inventory := hLater.inventory.trans hEarlier.inventory
  currentRoom := hLater.currentRoom.trans hEarlier.currentRoom
  flag? := by
    intro flag
    rw [hLater.flag?, hEarlier.flag?]
    by_cases hLast : flag ∈ later <;> simp [hLast]

theorem applyEffect
    {effect : Effect}
    {flag : String}
    (hRaised : effect.raised? = some flag)
    (scene : Scene) :
    scene.Raises [flag] (scene.applyEffect effect).value := by
  have hSet :
      (scene.applyEffect effect).value =
        scene.setFlag flag (.boolean true) := by
    unfold Effect.raised? at hRaised
    split at hRaised <;> cases hRaised <;> rfl
  rw [hSet]
  refine ⟨rfl, rfl, rfl, ?_⟩
  intro other
  by_cases hOther : other = flag
  · subst hOther
    simp [setFlag, Session.setFlag, Session.flag?]
  · simp [setFlag, Session.setFlag, Session.flag?, hOther,
      Dict.get?_insert_of_ne]

theorem applyEffects
    {effects : List Effect}
    (hRaise : ∀ effect ∈ effects, effect.OnlyRaises)
    (scene : Scene) :
    scene.Raises (effects.filterMap Effect.raised?)
      (scene.applyEffects effects).value := by
  induction effects generalizing scene with
  | nil => exact .none scene
  | cons effect rest ih =>
      rcases List.forall_mem_cons.mp hRaise with
        ⟨hFirst, hRest⟩
      rcases Option.isSome_iff_exists.mp hFirst with
        ⟨flag, hFlag⟩
      rw [List.filterMap_cons_some hFlag]
      exact (applyEffect hFlag scene).trans (ih hRest _)

theorem solve
    {puzzle : Puzzle}
    (hRaise : ∀ effect ∈ puzzle.effects, effect.OnlyRaises)
    (scene : Scene) :
    scene.Raises puzzle.raised (scene.solve puzzle) := by
  have hMarked : scene.Raises [] (scene.markSolved puzzle.id) :=
    ⟨rfl, rfl, rfl, by simp [markSolved, Session.flag?]⟩
  exact hMarked.trans (applyEffects hRaise _)

/- Where the flag asked for is raised in both or in neither. -/
theorem holds_eq
    (hFewer : scene.Raises fewer left)
    (hMore : scene.Raises more right)
    {condition : Condition}
    (hTarget :
      condition.kind = .flag →
        (condition.target ∈ fewer ↔ condition.target ∈ more)) :
    left.holds condition = right.holds condition := by
  have hThing (id : String) :
      left.world.thing? id = right.world.thing? id := by
    unfold World.thing?
    rw [hMore.things, hFewer.things]
  cases hKind : condition.kind with
  | thingState => simp only [holds, hKind, hThing]
  | inventory =>
      simp only [holds, hKind, Session.hasItem, hMore.inventory,
        hFewer.inventory]
  | room =>
      simp only [holds, hKind, hMore.currentRoom,
        hFewer.currentRoom]
  | flag =>
      simp only [holds, hKind, hMore.flag?, hFewer.flag?,
        hTarget hKind]

/-
  What holds stays so where more flags are raised, unless a
  condition asks one of them to be other than raised.
-/
theorem holds_mono
    (hFewer : scene.Raises fewer left)
    (hMore : scene.Raises more right)
    (hSubset : fewer ⊆ more)
    {condition : Condition}
    (hExpected :
      condition.kind = .flag → condition.target ∈ more →
        condition.value = .boolean true)
    (hHolds : left.holds condition = true) :
    right.holds condition = true := by
  by_cases hRaised :
      condition.kind = .flag ∧ condition.target ∈ more
  · rcases hRaised with ⟨hKind, hMem⟩
    simp only [holds, hKind, hMore.flag?, hMem,
      hExpected hKind hMem]
    rfl
  · rw [← hFewer.holds_eq hMore ?_]
    · exact hHolds
    · intro hKind
      have hNot : condition.target ∉ more :=
        fun hMem => hRaised ⟨hKind, hMem⟩
      exact iff_of_false (fun hMem => hNot (hSubset hMem)) hNot

/- Scenes with the same flags raised have the same flags. -/
theorem flags_eq
    (hFewer : scene.Raises fewer left)
    (hMore : scene.Raises more right)
    (hSame : ∀ flag, flag ∈ fewer ↔ flag ∈ more) :
    left.session.flags = right.session.flags := by
  apply Dict.ext_get?
  intro flag
  have hLeft := hFewer.flag? flag
  have hRight := hMore.flag? flag
  simp only [hSame flag] at hLeft
  exact hLeft.trans hRight.symm

end Raises

variable {scene after last : Scene}
variable {puzzle : Puzzle}
variable {solved chosen earlier later : List Puzzle}

theorem Solves.raises
    (hSolves : scene.Solves solved after)
    (hRaise :
      ∀ puzzle ∈ solved, ∀ effect ∈ puzzle.effects,
        effect.OnlyRaises) :
    scene.Raises (solved.flatMap Puzzle.raised) after := by
  induction hSolves with
  | done scene => exact .none scene
  | @next scene after puzzle later hListed hReady hLater ih =>
      rcases List.forall_mem_cons.mp hRaise with
        ⟨hFirst, hRest⟩
      exact (Raises.solve hFirst scene).trans (ih hRest)

------------------------------------------------------------
-- Closed Sets
------------------------------------------------------------

/-
  A set of puzzles leaves none to be solved: each unsolved one
  is in it whose prerequisites are solved before or in the set
  and whose conditions hold once its effects are applied.
-/
def IsClosed (scene : Scene) (chosen : List Puzzle) : Prop :=
  ∀ puzzle ∈ scene.unsolved,
    (∀ needed ∈ puzzle.dependsOn,
      scene.session.isSolved needed = true ∨
        needed ∈ chosen.map Puzzle.id) →
    (∀ condition ∈ puzzle.conditions,
      (scene.applyEffects
        (chosen.flatMap Puzzle.effects)).value.holds
          condition = true) →
    puzzle ∈ chosen

namespace OnlyRaises

theorem effects_of_subset
    (hOnly : scene.OnlyRaises)
    (hSubset : chosen ⊆ scene.unsolved) :
    ∀ puzzle ∈ chosen, ∀ effect ∈ puzzle.effects,
      effect.OnlyRaises :=
  fun puzzle hMem =>
    hOnly.effects puzzle
      (mem_unsolved_iff.mp (hSubset hMem)).1

/- The effects of a set of puzzles, one after the other. -/
theorem raises_applyEffects
    (hOnly : scene.OnlyRaises)
    (hSubset : chosen ⊆ scene.unsolved) :
    scene.Raises (chosen.flatMap Puzzle.raised)
      (scene.applyEffects
        (chosen.flatMap Puzzle.effects)).value := by
  have hRaised :
      (chosen.flatMap Puzzle.effects).filterMap
          Effect.raised? =
        chosen.flatMap Puzzle.raised :=
    List.filterMap_flatMap
  rw [← hRaised]
  apply Raises.applyEffects
  intro effect hMem
  rcases List.mem_flatMap.mp hMem with ⟨puzzle, hPuzzle, hIn⟩
  exact hOnly.effects_of_subset hSubset puzzle hPuzzle effect
    hIn

/- What a puzzle needs is kept by solving more puzzles. -/
theorem holds_mono
    {fewer more : List Puzzle}
    {left right : Scene}
    (hOnly : scene.OnlyRaises)
    (hSubset : fewer ⊆ more)
    (hMoreUnsolved : more ⊆ scene.unsolved)
    (hFewer : scene.Raises (fewer.flatMap Puzzle.raised) left)
    (hMore : scene.Raises (more.flatMap Puzzle.raised) right)
    (hListed : puzzle ∈ scene.world.puzzles)
    {condition : Condition}
    (hCondition : condition ∈ puzzle.conditions)
    (hHolds : left.holds condition = true) :
    right.holds condition = true := by
  apply hFewer.holds_mono hMore ?_ ?_ hHolds
  · intro flag hMem
    rcases List.mem_flatMap.mp hMem with ⟨other, hOther, hIn⟩
    exact List.mem_flatMap.mpr ⟨other, hSubset hOther, hIn⟩
  · intro hKind hTarget
    rcases List.mem_flatMap.mp hTarget with
      ⟨other, hOther, hRaised⟩
    exact hOnly.conditions puzzle hListed condition hCondition
      hKind ⟨other, (mem_unsolved_iff.mp
        (hMoreUnsolved hOther)).1, hRaised⟩

end OnlyRaises

------------------------------------------------------------
-- The Least Closed Set
------------------------------------------------------------

/-
  No puzzle is solved that a closed set could do without. By
  induction on what is solved later: all that was solved
  before is in the set, so the set has what a puzzle needs.
-/
theorem Solves.subset_of_isClosed
    (hOnly : scene.OnlyRaises)
    (hSubset : chosen ⊆ scene.unsolved)
    (hClosed : scene.IsClosed chosen)
    (hEarlier : scene.Solves earlier after)
    (hThose : earlier ⊆ chosen)
    (hLater : after.Solves later last) :
    later ⊆ chosen := by
  induction hLater generalizing earlier with
  | done after => simp
  | @next after last puzzle later hListed hReady hLater ih =>
      have hNext :
          scene.Solves (earlier ++ [puzzle])
            (after.solve puzzle) :=
        hEarlier.trans (.next hListed hReady (.done _))
      have hUnsolved : puzzle ∈ scene.unsolved :=
        hNext.subset_unsolved (by simp)
      rcases isReady_iff.mp hReady with ⟨-, hNeeds, hHolds⟩
      have hEffects :=
        hEarlier.raises (hOnly.effects_of_subset
          hEarlier.subset_unsolved)
      have hChosen : puzzle ∈ chosen := by
        apply hClosed puzzle hUnsolved
        · intro needed hNeeded
          have hSolved :=
            (hEarlier.isSolved_iff needed).mp
              (hNeeds needed hNeeded)
          exact hSolved.imp_right
            (fun hMem => List.map_subset Puzzle.id hThose hMem)
        · intro condition hCondition
          exact hOnly.holds_mono hThose hSubset hEffects
            (hOnly.raises_applyEffects hSubset)
            (mem_unsolved_iff.mp hUnsolved).1 hCondition
            (hHolds condition hCondition)
      have hAll : earlier ++ [puzzle] ⊆ chosen := by
        simpa [hChosen] using hThose
      exact List.cons_subset.mpr ⟨hChosen, ih hNext hAll⟩

/-
  Where no puzzle is ready any more, what has been solved is
  closed: a puzzle outside would still be as it was, and all
  that it needs would be there.
-/
theorem Solves.isClosed
    (hOnly : scene.OnlyRaises)
    (hIds : (Catalog.ids scene.world.puzzles).Nodup)
    (hSolves : scene.Solves solved after)
    (hIdle :
      ∀ puzzle ∈ after.world.puzzles,
        after.isReady puzzle = false) :
    scene.IsClosed solved := by
  intro puzzle hUnsolved hNeeds hHolds
  rcases mem_unsolved_iff.mp hUnsolved with
    ⟨hListed, hFresh, hNot⟩
  by_contra hLeft
  have hOutside : puzzle.id ∉ solved.map Puzzle.id := by
    intro hId
    rcases List.mem_map.mp hId with ⟨other, hOther, hSame⟩
    have hOtherListed :=
      (mem_unsolved_iff.mp
        (hSolves.subset_unsolved hOther)).1
    have hEq : other = puzzle :=
      Catalog.eq_of_idOf_eq hIds hOtherListed hListed hSame
    exact hLeft (hEq ▸ hOther)
  have hStill := hSolves.mem_puzzles hListed hOutside
  have hReady : after.isReady puzzle = true := by
    refine isReady_iff.mpr ⟨?_, ?_, ?_⟩
    · have hOpen : after.session.isSolved puzzle.id = false := by
        rw [← Bool.not_eq_true, hSolves.isSolved_iff]
        simp [hNot, hOutside]
      simp [isUnsolved, hFresh, hOpen]
    · intro needed hNeeded
      exact (hSolves.isSolved_iff needed).mpr
        (hNeeds needed hNeeded)
    · intro condition hCondition
      exact hOnly.holds_mono (List.Subset.refl solved)
        hSolves.subset_unsolved
        (hOnly.raises_applyEffects hSolves.subset_unsolved)
        (hSolves.raises (hOnly.effects_of_subset
          hSolves.subset_unsolved))
        hListed hCondition (hHolds condition hCondition)
  rw [hIdle puzzle hStill] at hReady
  contradiction

/- A list of puzzles as the least closed set there is. -/
structure IsLeastClosed
    (scene : Scene)
    (solved : List Puzzle) : Prop where
  nodup : (solved.map Puzzle.id).Nodup
  unsolved : solved ⊆ scene.unsolved
  closed : scene.IsClosed solved
  least :
    ∀ chosen, chosen ⊆ scene.unsolved →
      scene.IsClosed chosen → solved ⊆ chosen

/- With enough passes an evaluation solves the least set. -/
theorem OnlyRaises.exists_isLeastClosed
    (hOnly : scene.OnlyRaises)
    (hIds : (Catalog.ids scene.world.puzzles).Nodup)
    {limit : UInt64}
    (hLimit : scene.unsolved.length ≤ limit.toNat) :
    let evaluation := scene.evaluatePuzzles limit
    ∃ solved,
      evaluation.solved = solved.map Puzzle.id ∧
        scene.IsLeastClosed solved ∧
        scene.Raises (solved.flatMap Puzzle.raised)
          evaluation.scene := by
  intro evaluation
  rcases exists_solves_evaluatePuzzles scene limit with
    ⟨solved, hSolves, hSolved⟩
  have hIdle :
      ∀ puzzle ∈ evaluation.scene.world.puzzles,
        evaluation.scene.isReady puzzle = false := by
    have hSettled :
        (Evaluation.passes limit.toNat { scene }).isSettled =
          true := by
      rw [← Evaluation.settled_passes_eq]
      exact Evaluation.settled_passes hLimit
    rw [scene_evaluatePuzzles]
    exact Evaluation.isSettled_iff.mp hSettled
  exact ⟨solved, hSolved,
    { nodup := hSolves.nodup_ids
      unsolved := hSolves.subset_unsolved
      closed := hSolves.isClosed hOnly hIds hIdle
      least := fun chosen hSubset hClosed =>
        Solves.subset_of_isClosed hOnly hSubset hClosed
          (.done scene) (by simp) hSolves },
    hSolves.raises (hOnly.effects_of_subset
      hSolves.subset_unsolved)⟩

/- There is one least closed set, listed in some order. -/
theorem IsLeastClosed.perm
    (hLeft : scene.IsLeastClosed earlier)
    (hRight : scene.IsLeastClosed later) :
    earlier.Perm later := by
  apply (List.perm_ext_iff_of_nodup
    (hLeft.nodup.of_map Puzzle.id)
    (hRight.nodup.of_map Puzzle.id)).mpr
  intro puzzle
  exact ⟨fun hMem =>
      hLeft.least later hRight.unsolved hRight.closed hMem,
    fun hMem =>
      hRight.least earlier hLeft.unsolved hLeft.closed hMem⟩

------------------------------------------------------------
-- Puzzles In Another Order
------------------------------------------------------------

/- The scene with a list of puzzles in place of its own. -/
def withPuzzles
    (scene : Scene)
    (puzzles : List Puzzle) : Scene :=
  { scene with world := { scene.world with puzzles := puzzles } }

section Shuffled

variable {shuffled : List Puzzle}

theorem raises_withPuzzles
    (scene : Scene)
    (puzzles : List Puzzle) :
    scene.Raises [] (scene.withPuzzles puzzles) :=
  ⟨rfl, rfl, rfl, by simp [withPuzzles]⟩

theorem unsolved_withPuzzles_perm
    (hPerm : shuffled.Perm scene.world.puzzles) :
    (scene.withPuzzles shuffled).unsolved.Perm
      scene.unsolved :=
  hPerm.filter scene.isUnsolved

theorem OnlyRaises.withPuzzles
    (hOnly : scene.OnlyRaises)
    (hPerm : shuffled.Perm scene.world.puzzles) :
    (scene.withPuzzles shuffled).OnlyRaises where
  effects := fun puzzle hMem =>
    hOnly.effects puzzle (hPerm.mem_iff.mp hMem)
  conditions := by
    rintro puzzle hMem condition hCondition hKind
      ⟨other, hOther, hRaised⟩
    exact hOnly.conditions puzzle (hPerm.mem_iff.mp hMem)
      condition hCondition hKind
      ⟨other, hPerm.mem_iff.mp hOther, hRaised⟩

/- Whether a set is closed does not hang on the order. -/
theorem OnlyRaises.isClosed_withPuzzles_iff
    (hOnly : scene.OnlyRaises)
    (hPerm : shuffled.Perm scene.world.puzzles)
    (hSubset : chosen ⊆ scene.unsolved) :
    (scene.withPuzzles shuffled).IsClosed chosen ↔
      scene.IsClosed chosen := by
  have hUnsolved := unsolved_withPuzzles_perm hPerm
  have hOther :
      scene.Raises (chosen.flatMap Puzzle.raised)
        ((scene.withPuzzles shuffled).applyEffects
          (chosen.flatMap Puzzle.effects)).value :=
    (scene.raises_withPuzzles shuffled).trans
      ((hOnly.withPuzzles hPerm).raises_applyEffects
        (List.Subset.trans hSubset hUnsolved.symm.subset))
  have hHolds (condition : Condition) :
      ((scene.withPuzzles shuffled).applyEffects
          (chosen.flatMap Puzzle.effects)).value.holds
            condition =
        (scene.applyEffects
          (chosen.flatMap Puzzle.effects)).value.holds
            condition :=
    hOther.holds_eq (hOnly.raises_applyEffects hSubset)
      (fun _ => Iff.rfl)
  unfold IsClosed
  simp only [hHolds, hUnsolved.mem_iff]
  rfl

theorem OnlyRaises.isLeastClosed_of_withPuzzles
    (hOnly : scene.OnlyRaises)
    (hPerm : shuffled.Perm scene.world.puzzles)
    (hLeast : (scene.withPuzzles shuffled).IsLeastClosed solved) :
    scene.IsLeastClosed solved := by
  have hUnsolved := unsolved_withPuzzles_perm hPerm
  have hSubset : solved ⊆ scene.unsolved :=
    List.Subset.trans hLeast.unsolved hUnsolved.subset
  exact
    { nodup := hLeast.nodup
      unsolved := hSubset
      closed :=
        (hOnly.isClosed_withPuzzles_iff hPerm hSubset).mp
          hLeast.closed
      least := fun chosen hChosen hClosed =>
        hLeast.least chosen
          (List.Subset.trans hChosen hUnsolved.symm.subset)
          ((hOnly.isClosed_withPuzzles_iff hPerm hChosen).mpr
            hClosed) }

end Shuffled

/-
  If effects do no more than raise flags and conditions on
  these expect them to be raised, then an evaluation with a
  pass for each unsolved puzzle solves the least set of them
  that leaves none to be solved. With the puzzles in any other
  order it solves the same ones and leaves the same flags.
-/
theorem evaluatePuzzles_solves_least
    {limit : UInt64}
    (hOnly : scene.OnlyRaises)
    (hIds : (Catalog.ids scene.world.puzzles).Nodup)
    (hLimit : scene.unsolved.length ≤ limit.toNat) :
    let evaluation := scene.evaluatePuzzles limit
    (∃ solved,
      evaluation.solved = solved.map Puzzle.id ∧
        scene.IsLeastClosed solved) ∧
      ∀ shuffled : List Puzzle,
        shuffled.Perm scene.world.puzzles →
        let other :=
          (scene.withPuzzles shuffled).evaluatePuzzles limit
        other.solved.Perm evaluation.solved ∧
          other.scene.session.flags =
            evaluation.scene.session.flags := by
  intro evaluation
  rcases hOnly.exists_isLeastClosed hIds hLimit with
    ⟨solved, hSolved, hLeast, hRaises⟩
  refine ⟨⟨solved, hSolved, hLeast⟩, ?_⟩
  intro shuffled hPerm other
  have hOtherIds :
      (Catalog.ids
        (scene.withPuzzles shuffled).world.puzzles).Nodup :=
    (hPerm.map Identified.idOf).nodup_iff.mpr hIds
  have hOtherLimit :
      (scene.withPuzzles shuffled).unsolved.length ≤
        limit.toNat := by
    rw [(unsolved_withPuzzles_perm hPerm).length_eq]
    exact hLimit
  rcases (hOnly.withPuzzles hPerm).exists_isLeastClosed
      hOtherIds hOtherLimit with
    ⟨again, hAgain, hOtherLeast, hOtherRaises⟩
  have hSame : again.Perm solved :=
    (hOnly.isLeastClosed_of_withPuzzles hPerm
      hOtherLeast).perm hLeast
  constructor
  · rw [hAgain, hSolved]
    exact hSame.map Puzzle.id
  · apply ((scene.raises_withPuzzles shuffled).trans
      hOtherRaises).flags_eq hRaises
    intro flag
    exact (hSame.flatMap_right Puzzle.raised).mem_iff

/- A spark to be struck, before a fire and its smoke. -/
def hearth : Scene where
  world :=
    { puzzles :=
        [{ id := "smoke"
           name := "Smoke"
           dependsOn := ["fire"]
           conditions :=
             [{ kind := .flag, target := eventFlag "blaze" }] },
          { id := "flood"
            name := "Flood"
            conditions := [{ kind := .flag, target := "rain" }]
            effects := [.setFlag "flooded" (.boolean true)] },
          { id := "fire"
            name := "Fire"
            conditions :=
              [{ kind := .flag, target := "spark" }]
            effects := [.triggerEvent "blaze"] },
          { id := "spark"
            name := "Spark"
            conditions :=
              [{ kind := .inventory, target := "flint" }]
            effects := [.setFlag "spark" (.boolean true)] }] }
  session :=
    { Session.starting default "hall" with
        inventory := ["flint"] }

/- In any order spark, fire and smoke come to be solved. -/
theorem hearth_burns_in_any_order :
    hearth.OnlyRaises ∧
      (Catalog.ids hearth.world.puzzles).Nodup ∧
      hearth.unsolved.length ≤ (4 : UInt64).toNat ∧
      (hearth.evaluatePuzzles 4).solved =
        ["spark", "fire", "smoke"] ∧
      ∀ shuffled : List Puzzle,
        shuffled.Perm hearth.world.puzzles →
        ((hearth.withPuzzles shuffled).evaluatePuzzles
          4).solved.Perm ["spark", "fire", "smoke"] := by
  have hOnly : hearth.OnlyRaises :=
    { effects := by decide
      conditions := by decide }
  have hIds : (Catalog.ids hearth.world.puzzles).Nodup := by
    decide
  have hLimit :
      hearth.unsolved.length ≤ (4 : UInt64).toNat := by
    decide
  have hSolved :
      (hearth.evaluatePuzzles 4).solved =
        ["spark", "fire", "smoke"] := by
    decide
  refine ⟨hOnly, hIds, hLimit, hSolved, ?_⟩
  intro shuffled hPerm
  rcases evaluatePuzzles_solves_least hOnly hIds hLimit with
    ⟨-, hOrder⟩
  rw [← hSolved]
  exact (hOrder shuffled hPerm).1

end Scene

end TextAdventure
