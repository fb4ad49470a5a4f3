import Mathlib.Data.List.Count
import TextAdventure.Proofs.Scene.Edit

/-
  Solving puzzles, one ready puzzle after the other.

  Effects solve nothing by themselves, so every puzzle that
  is solved is one unsolved puzzle less. An evaluation that
  stops has either gone once through all puzzles and found
  none of them ready, or has looked again at its limit.

  Main declarations:
    * `Scene.solve`
    * `Scene.Solves`
    * `Scene.unsolved`
    * `Scene.Solves.subset_unsolved`
    * `Evaluation.GoesOn`
    * `Evaluation.exists_goesOn_passes`
    * `Scene.evaluatePuzzles_reaches_fixpoint`
-/

namespace TextAdventure

namespace Scene

variable {scene after last : Scene}
variable {puzzle : Puzzle}

------------------------------------------------------------
-- Effects
------------------------------------------------------------

/- Effects leave the puzzles and the solved ones alone. -/
theorem ledger_applyEffects
    (scene : Scene)
    (effects : List Effect) :
    (scene.applyEffects effects).value.ledger =
      scene.ledger :=
  (applyEffects_edits (fun _ => trivial) scene
    (fun effect _ => effect.grants_any)).ledger

/- No effect warns of the limit on passes. -/
theorem passLimitHit_not_mem_applyEffect
    (scene : Scene)
    (effect : Effect)
    (limit : UInt64) :
    .passLimitHit limit ∉
      (scene.applyEffect effect).warnings := by
  cases effect with
  | unlockExit exit =>
      simp only [applyEffect, unlockExit]
      split <;> simp [Logged.silent]
  | revealThing thing =>
      simp only [applyEffect, reveal]
      split <;> simp [Logged.silent]
  | moveThing thing room =>
      simp only [applyEffect, moveThing]
      split <;> simp [Logged.silent]
  | setProperty thing path value =>
      simp only [applyEffect, setWornIfCarried, setProperty]
      split
      · split
        · simp
        · split
          · simp
          · split <;> simp [Logged.silent]
      · split <;> simp [Logged.silent]
  | setFlag | triggerEvent | setPlayerState =>
      exact List.not_mem_nil

theorem passLimitHit_not_mem_applyEffects
    (scene : Scene)
    (effects : List Effect)
    (limit : UInt64) :
    .passLimitHit limit ∉
      (scene.applyEffects effects).warnings := by
  induction effects generalizing scene with
  | nil => exact List.not_mem_nil
  | cons effect rest ih =>
      intro hMem
      rcases List.mem_append.mp hMem with hFirst | hRest
      · exact passLimitHit_not_mem_applyEffect scene effect
          limit hFirst
      · exact ih _ hRest

------------------------------------------------------------
-- Solving
------------------------------------------------------------

/- The scene with a puzzle solved and its effects applied. -/
def solve (scene : Scene) (puzzle : Puzzle) : Scene :=
  ((scene.markSolved puzzle.id).applyEffects
    puzzle.effects).value

theorem puzzles_solve (scene : Scene) (puzzle : Puzzle) :
    (scene.solve puzzle).world.puzzles =
      (scene.world.markSolved puzzle.id).puzzles :=
  puzzles_of_ledger_eq
    (ledger_applyEffects (scene.markSolved puzzle.id)
      puzzle.effects)

theorem solvedPuzzles_solve
    (scene : Scene)
    (puzzle : Puzzle) :
    (scene.solve puzzle).session.solvedPuzzles =
      scene.session.solvedPuzzles ++ [puzzle.id] :=
  solvedPuzzles_of_ledger_eq
    (ledger_applyEffects (scene.markSolved puzzle.id)
      puzzle.effects)

theorem isSolved_solve
    (scene : Scene)
    (puzzle : Puzzle)
    (id : String) :
    (scene.solve puzzle).session.isSolved id =
      (scene.session.isSolved id || id == puzzle.id) := by
  simp [Session.isSolved, solvedPuzzles_solve,
    Bool.beq_eq_decide_eq]

/-
  Puzzles of the world solved one after the other, each of
  them when it is ready.
-/
inductive Solves : Scene → List Puzzle → Scene → Prop where
| done
    (scene : Scene) :
    Solves scene [] scene
| next
    {scene after : Scene}
    {puzzle : Puzzle}
    {later : List Puzzle}
    (hListed : puzzle ∈ scene.world.puzzles)
    (hReady : scene.isReady puzzle = true)
    (hLater : Solves (scene.solve puzzle) later after) :
    Solves scene (puzzle :: later) after

theorem Solves.trans
    {earlier later : List Puzzle}
    (hEarlier : Solves scene earlier after)
    (hLater : Solves after later last) :
    Solves scene (earlier ++ later) last := by
  induction hEarlier with
  | done scene => exact hLater
  | next hListed hReady _ ih =>
      exact .next hListed hReady (ih hLater)

/- What is solved is listed as solved, in that order. -/
theorem Solves.solvedPuzzles
    {solved : List Puzzle}
    (hSolves : Solves scene solved after) :
    after.session.solvedPuzzles =
      scene.session.solvedPuzzles ++
        solved.map Puzzle.id := by
  induction hSolves with
  | done scene => simp
  | next hListed hReady hLater ih =>
      rw [ih, solvedPuzzles_solve, List.append_assoc]
      rfl

------------------------------------------------------------
-- Unsolved Puzzles
------------------------------------------------------------

/- Whether a puzzle is solved neither here nor there. -/
def isUnsolved (scene : Scene) (puzzle : Puzzle) : Bool :=
  !puzzle.solved && !scene.session.isSolved puzzle.id

/- The unsolved puzzles of the world. -/
def unsolved (scene : Scene) : List Puzzle :=
  scene.world.puzzles.filter scene.isUnsolved

theorem isReady_iff :
    scene.isReady puzzle = true ↔
      scene.isUnsolved puzzle = true ∧
        (∀ needed ∈ puzzle.dependsOn,
          scene.session.isSolved needed = true) ∧
        ∀ condition ∈ puzzle.conditions,
          scene.holds condition = true := by
  simp [isReady, isUnsolved, and_assoc]

theorem mem_unsolved_iff :
    puzzle ∈ scene.unsolved ↔
      puzzle ∈ scene.world.puzzles ∧
        puzzle.solved = false ∧
          scene.session.isSolved puzzle.id = false := by
  simp [unsolved, isUnsolved]

theorem isUnsolved_of_isReady
    (hReady : scene.isReady puzzle = true) :
    scene.isUnsolved puzzle = true :=
  (isReady_iff.mp hReady).1

/-
  Marking a puzzle as solved makes no difference once its id
  is in the list, so only the list has to be looked at.
-/
theorem length_unsolved_solve
    (scene : Scene)
    (puzzle : Puzzle) :
    (scene.solve puzzle).unsolved.length =
      (scene.unsolved.filter
        (fun other => other.id != puzzle.id)).length := by
  have hMarked :
      (scene.solve puzzle).world.puzzles.map
          (scene.solve puzzle).isUnsolved =
        scene.world.puzzles.map
          (scene.solve puzzle).isUnsolved := by
    rw [puzzles_solve]
    apply Catalog.map_update
    intro other hId
    have hListed : other.id = puzzle.id := hId
    simp [isUnsolved, isSolved_solve, hListed]
  have hTest :
      (scene.solve puzzle).isUnsolved = fun other =>
        other.id != puzzle.id && scene.isUnsolved other := by
    funext other
    simp only [isUnsolved, isSolved_solve, Bool.not_or, bne]
    cases other.solved <;>
      cases scene.session.isSolved other.id <;> simp
  have hCount :=
    congrArg (List.countP id) hMarked
  rw [List.countP_map, List.countP_map, Function.id_comp,
    List.countP_eq_length_filter,
    List.countP_eq_length_filter] at hCount
  rw [unsolved, hCount, hTest, unsolved, List.filter_filter]

theorem length_unsolved_solve_lt
    (hListed : puzzle ∈ scene.world.puzzles)
    (hReady : scene.isReady puzzle = true) :
    (scene.solve puzzle).unsolved.length <
      scene.unsolved.length := by
  rw [length_unsolved_solve,
    List.length_filter_lt_length_iff_exists]
  refine ⟨puzzle, ?_, by simp⟩
  exact List.mem_filter.mpr
    ⟨hListed, isUnsolved_of_isReady hReady⟩

/- Each solved puzzle is an unsolved one less. -/
theorem Solves.length_unsolved
    {solved : List Puzzle}
    (hSolves : Solves scene solved after) :
    after.unsolved.length + solved.length ≤
      scene.unsolved.length := by
  induction hSolves with
  | done scene => simp
  | next hListed hReady hLater ih =>
      have hLess := length_unsolved_solve_lt hListed hReady
      rw [List.length_cons]
      omega

/- A puzzle that is left unsolved was there before. -/
theorem unsolved_solve_subset
    (scene : Scene)
    (puzzle : Puzzle) :
    (scene.solve puzzle).unsolved ⊆ scene.unsolved := by
  intro other hOther
  rcases mem_unsolved_iff.mp hOther with
    ⟨hMem, hFresh, hNot⟩
  rw [isSolved_solve, Bool.or_eq_false_iff] at hNot
  rw [puzzles_solve] at hMem
  have hListed :
      ∀ other ∈ (scene.world.markSolved puzzle.id).puzzles,
        other.solved = false → other ∈ scene.world.puzzles :=
    Catalog.forall_mem_update (fun _ hOld _ => hOld)
      (fun _ _ hMarked => Bool.noConfusion hMarked)
  exact mem_unsolved_iff.mpr
    ⟨hListed other hMem hFresh, hFresh, hNot.1⟩

namespace Solves

variable {solved : List Puzzle}

theorem subset_unsolved
    (hSolves : scene.Solves solved after) :
    solved ⊆ scene.unsolved := by
  induction hSolves with
  | done scene => simp
  | @next scene after puzzle later hListed hReady hLater ih =>
      apply List.cons_subset.mpr
      constructor
      · exact List.mem_filter.mpr
          ⟨hListed, isUnsolved_of_isReady hReady⟩
      · exact List.Subset.trans ih
          (unsolved_solve_subset scene puzzle)

/- No puzzle is solved twice. -/
theorem nodup_ids (hSolves : scene.Solves solved after) :
    (solved.map Puzzle.id).Nodup := by
  induction hSolves with
  | done scene => simp
  | @next scene after puzzle later hListed hReady hLater ih =>
      rw [List.map_cons, List.nodup_cons]
      refine ⟨?_, ih⟩
      intro hAgain
      rcases List.mem_map.mp hAgain with ⟨other, hOther, hId⟩
      have hNot :=
        (mem_unsolved_iff.mp
          (hLater.subset_unsolved hOther)).2.2
      simp [isSolved_solve, hId] at hNot

theorem isSolved_iff
    (hSolves : scene.Solves solved after)
    (id : String) :
    after.session.isSolved id = true ↔
      scene.session.isSolved id = true ∨
        id ∈ solved.map Puzzle.id := by
  simp [Session.isSolved, hSolves.solvedPuzzles]

/- A puzzle that has not been solved is left as it was. -/
theorem mem_puzzles
    (hSolves : scene.Solves solved after)
    (hMem : puzzle ∈ scene.world.puzzles)
    (hNot : puzzle.id ∉ solved.map Puzzle.id) :
    puzzle ∈ after.world.puzzles := by
  induction hSolves with
  | done scene => exact hMem
  | @next scene after first later hListed hReady hLater ih =>
      rw [List.map_cons, List.mem_cons, not_or] at hNot
      apply ih ?_ hNot.2
      rw [puzzles_solve]
      exact Catalog.mem_update_of_mem_of_ne hNot.1 hMem

end Solves

end Scene

------------------------------------------------------------
-- Passes
------------------------------------------------------------

namespace Evaluation

variable {before evaluation after : Evaluation}
variable {puzzles : List Puzzle}

/-
  One evaluation goes on from another by solving puzzles and
  warns of nothing but their effects.
-/
structure GoesOn
    (before : Evaluation)
    (more : List Puzzle)
    (after : Evaluation) : Prop where
  scene : before.scene.Solves more after.scene
  solved : after.solved = before.solved ++ more.map Puzzle.id
  messages :
    after.messages =
      before.messages ++ more.filterMap Puzzle.message
  warnings :
    ∀ limit, .passLimitHit limit ∈ after.warnings →
      .passLimitHit limit ∈ before.warnings

namespace GoesOn

theorem stay (evaluation : Evaluation) :
    evaluation.GoesOn [] evaluation where
  scene := .done evaluation.scene
  solved := by simp
  messages := by simp
  warnings := fun _ hMem => hMem

theorem trans
    {earlier later : List Puzzle}
    (hEarlier : before.GoesOn earlier evaluation)
    (hLater : evaluation.GoesOn later after) :
    before.GoesOn (earlier ++ later) after where
  scene := hEarlier.scene.trans hLater.scene
  solved := by
    rw [hLater.solved, hEarlier.solved, List.map_append,
      List.append_assoc]
  messages := by
    rw [hLater.messages, hEarlier.messages,
      List.filterMap_append, List.append_assoc]
  warnings := fun limit hMem =>
    hEarlier.warnings limit (hLater.warnings limit hMem)

theorem solve
    {puzzle : Puzzle}
    (hListed : puzzle ∈ evaluation.scene.world.puzzles)
    (hReady : evaluation.scene.isReady puzzle = true) :
    evaluation.GoesOn [puzzle] (evaluation.solve puzzle) where
  scene := .next hListed hReady (.done _)
  solved := rfl
  messages := by
    cases hMessage : puzzle.message <;>
      simp [Evaluation.solve, hMessage]
  warnings := by
    intro limit hMem
    rcases List.mem_append.mp hMem with hOld | hNew
    · exact hOld
    · exact absurd hNew
        (Scene.passLimitHit_not_mem_applyEffects _ _ limit)

end GoesOn

/-
  A pass goes through the puzzles as they were when it began.
  By their turn they are still in the world unless they have
  been marked as solved, and then they are not ready.
-/
theorem exists_goesOn_foldl
    (hListed :
      ∀ puzzle ∈ puzzles,
        puzzle ∈ evaluation.scene.world.puzzles ∨
          evaluation.scene.session.isSolved puzzle.id =
            true) :
    ∃ solved,
      evaluation.GoesOn solved
        (puzzles.foldl consider evaluation) := by
  induction puzzles generalizing evaluation with
  | nil => exact ⟨[], .stay evaluation⟩
  | cons puzzle rest ih =>
      rcases List.forall_mem_cons.mp hListed with
        ⟨hFirst, hRest⟩
      rw [List.foldl_cons, consider]
      split
      · rename_i hReady
        have hUnsolved := Scene.isUnsolved_of_isReady hReady
        have hMem :
            puzzle ∈ evaluation.scene.world.puzzles := by
          apply hFirst.resolve_right
          intro hSolved
          simp [Scene.isUnsolved, hSolved] at hUnsolved
        have hStill :
            ∀ other ∈ rest,
              other ∈ (evaluation.solve
                  puzzle).scene.world.puzzles ∨
                (evaluation.solve
                  puzzle).scene.session.isSolved other.id =
                    true := by
          intro other hOther
          change other ∈ (evaluation.scene.solve
              puzzle).world.puzzles ∨
            (evaluation.scene.solve
              puzzle).session.isSolved other.id = true
          rw [Scene.isSolved_solve, Scene.puzzles_solve]
          by_cases hId : other.id = puzzle.id
          · exact Or.inr (by simp [hId])
          · refine (hRest other hOther).imp ?_ ?_
            · exact Catalog.mem_update_of_mem_of_ne hId
            · intro hSolved
              simp [hSolved]
        rcases ih hStill with ⟨solved, hGoesOn⟩
        exact ⟨puzzle :: solved,
          (GoesOn.solve hMem hReady).trans hGoesOn⟩
      · exact ih hRest

theorem exists_goesOn_pass (evaluation : Evaluation) :
    ∃ solved, evaluation.GoesOn solved evaluation.pass :=
  exists_goesOn_foldl (fun _ hMem => Or.inl hMem)

/- A scene that has no puzzle ready is gone through idly. -/
theorem foldl_consider_eq_self
    (hIdle :
      ∀ puzzle ∈ puzzles,
        evaluation.scene.isReady puzzle = false) :
    puzzles.foldl consider evaluation = evaluation := by
  induction puzzles with
  | nil => rfl
  | cons puzzle rest ih =>
      rcases List.forall_mem_cons.mp hIdle with
        ⟨hFirst, hRest⟩
      simp [consider, hFirst, ih hRest]

theorem length_solved_le_foldl
    (puzzles : List Puzzle)
    (evaluation : Evaluation) :
    evaluation.solved.length ≤
      (puzzles.foldl consider evaluation).solved.length := by
  induction puzzles generalizing evaluation with
  | nil => exact Nat.le_refl _
  | cons puzzle rest ih =>
      refine Nat.le_trans ?_ (ih (evaluation.consider puzzle))
      unfold consider
      split <;> simp [solve]

/- Where nothing was solved on the way, nothing was ready. -/
theorem idle_of_foldl
    (hSame :
      (puzzles.foldl consider evaluation).solved.length =
        evaluation.solved.length) :
    ∀ puzzle ∈ puzzles,
      evaluation.scene.isReady puzzle = false := by
  induction puzzles with
  | nil => simp
  | cons puzzle rest ih =>
      rw [List.foldl_cons, consider] at hSame
      split at hSame
      · have hGrown :=
          length_solved_le_foldl rest (evaluation.solve puzzle)
        simp only [solve, List.length_append,
          List.length_singleton] at hGrown hSame
        omega
      · rename_i hNotReady
        exact List.forall_mem_cons.mpr
          ⟨by simpa using hNotReady, ih hSame⟩

theorem isSettled_iff :
    evaluation.isSettled = true ↔
      ∀ puzzle ∈ evaluation.scene.world.puzzles,
        evaluation.scene.isReady puzzle = false := by
  simp [isSettled]

/- A pass that solves nothing finds nothing ready. -/
theorem pass_idle
    (hSame :
      evaluation.pass.solved.length =
        evaluation.solved.length) :
    evaluation.pass = evaluation ∧
      evaluation.isSettled = true :=
  ⟨foldl_consider_eq_self (idle_of_foldl hSame),
    isSettled_iff.mpr (idle_of_foldl hSame)⟩

/- Passes solve puzzles and no more. -/
theorem exists_goesOn_passes
    (limit : Nat)
    (evaluation : Evaluation) :
    ∃ solved,
      evaluation.GoesOn solved (passes limit evaluation) := by
  induction limit generalizing evaluation with
  | zero =>
      have hStay := GoesOn.stay evaluation
      exact ⟨[], hStay.scene, hStay.solved, hStay.messages,
        hStay.warnings⟩
  | succ limit ih =>
      rcases exists_goesOn_pass evaluation with
        ⟨earlier, hPass⟩
      unfold passes
      dsimp only
      split
      · exact ⟨earlier, hPass.scene, hPass.solved,
          hPass.messages, hPass.warnings⟩
      · rcases ih evaluation.pass with ⟨later, hLater⟩
        exact ⟨earlier ++ later, hPass.trans hLater⟩

/-
  It does not matter whether the passes stopped by themselves
  or at the limit: what they report is what there is.
-/
theorem settled_passes_eq
    (limit : Nat)
    (evaluation : Evaluation) :
    (passes limit evaluation).settled =
      (passes limit evaluation).isSettled := by
  induction limit generalizing evaluation with
  | zero => rfl
  | succ limit ih =>
      unfold passes
      dsimp only
      split
      · rename_i hSame
        rcases pass_idle hSame with ⟨hPass, hSettled⟩
        rw [hPass]
        exact hSettled.symm
      · exact ih evaluation.pass

/-
  Every pass but the last one solves a puzzle, so there are
  enough passes if there is one for each unsolved puzzle.
-/
theorem settled_passes
    {limit : Nat}
    (hLimit : evaluation.scene.unsolved.length ≤ limit) :
    (passes limit evaluation).settled = true := by
  induction limit generalizing evaluation with
  | zero =>
      refine isSettled_iff.mpr ?_
      intro puzzle hMem
      have hNone : evaluation.scene.unsolved = [] :=
        List.eq_nil_of_length_eq_zero (Nat.le_zero.mp hLimit)
      rw [← Bool.not_eq_true]
      intro hReady
      exact List.filter_eq_nil_iff.mp hNone puzzle hMem
        (Scene.isUnsolved_of_isReady hReady)
  | succ limit ih =>
      unfold passes
      dsimp only
      split
      · rfl
      · rename_i hProgress
        apply ih
        rcases exists_goesOn_pass evaluation with
          ⟨solved, hPass⟩
        have hLess := hPass.scene.length_unsolved
        have hSome : solved ≠ [] := by
          rintro rfl
          simp [hPass.solved] at hProgress
        have hPos := List.length_pos_of_ne_nil hSome
        omega

/- Where nothing is ready, passes only find that out. -/
theorem passes_of_isSettled
    (hSettled : evaluation.isSettled = true)
    (limit : Nat) :
    passes limit evaluation =
      { evaluation with settled := true } := by
  have hPass : evaluation.pass = evaluation :=
    foldl_consider_eq_self (isSettled_iff.mp hSettled)
  cases limit with
  | zero => rw [passes, hSettled]
  | succ limit => simp [passes, hPass]

end Evaluation

------------------------------------------------------------
-- Evaluation
------------------------------------------------------------

namespace Scene

open Evaluation (passes)

theorem scene_evaluatePuzzles
    (scene : Scene)
    (limit : UInt64) :
    (scene.evaluatePuzzles limit).scene =
      (passes limit.toNat { scene }).scene := by
  unfold evaluatePuzzles
  dsimp only
  split <;> rfl

theorem solved_evaluatePuzzles
    (scene : Scene)
    (limit : UInt64) :
    (scene.evaluatePuzzles limit).solved =
      (passes limit.toNat { scene }).solved := by
  unfold evaluatePuzzles
  dsimp only
  split <;> rfl

theorem settled_evaluatePuzzles
    (scene : Scene)
    (limit : UInt64) :
    (scene.evaluatePuzzles limit).settled =
      (passes limit.toNat { scene }).settled := by
  unfold evaluatePuzzles
  dsimp only
  split <;> rfl

theorem warnings_evaluatePuzzles
    (scene : Scene)
    (limit : UInt64) :
    (scene.evaluatePuzzles limit).warnings =
      (passes limit.toNat { scene }).warnings ++
        if (scene.evaluatePuzzles limit).settled then []
        else [.passLimitHit limit] := by
  rw [settled_evaluatePuzzles]
  unfold evaluatePuzzles
  dsimp only
  split <;> simp

/- What an evaluation solves, in order. -/
theorem exists_solves_evaluatePuzzles
    (scene : Scene)
    (limit : UInt64) :
    ∃ solved,
      scene.Solves solved
          (scene.evaluatePuzzles limit).scene ∧
        (scene.evaluatePuzzles limit).solved =
          solved.map Puzzle.id := by
  rcases Evaluation.exists_goesOn_passes limit.toNat
    { scene } with ⟨solved, hGoesOn⟩
  refine ⟨solved, ?_, ?_⟩
  · rw [scene_evaluatePuzzles]
    exact hGoesOn.scene
  · rw [solved_evaluatePuzzles, hGoesOn.solved]
    rfl

/-
  The evaluation of puzzles is settled exactly when it leaves
  no puzzle ready, and warns of its limit exactly when it is
  not. It solves at most the unsolved puzzles and settles if
  it may pass once for each of them. Once it is settled,
  evaluating again solves nothing and changes nothing.
-/
theorem evaluatePuzzles_reaches_fixpoint
    (scene : Scene)
    (limit : UInt64) :
    let evaluation := scene.evaluatePuzzles limit
    (evaluation.settled = true ↔
        ∀ puzzle ∈ evaluation.scene.world.puzzles,
          evaluation.scene.isReady puzzle = false) ∧
      (∀ passes, .passLimitHit passes ∈ evaluation.warnings ↔
        evaluation.settled = false ∧ passes = limit) ∧
      evaluation.solved.length ≤ scene.unsolved.length ∧
      (scene.unsolved.length ≤ limit.toNat →
        evaluation.settled = true) ∧
      (evaluation.settled = true → ∀ again,
        evaluation.scene.evaluatePuzzles again =
          { scene := evaluation.scene, settled := true }) := by
  intro evaluation
  have hSettled :
      evaluation.settled = true ↔
        ∀ puzzle ∈ evaluation.scene.world.puzzles,
          evaluation.scene.isReady puzzle = false := by
    rw [settled_evaluatePuzzles, Evaluation.settled_passes_eq,
      scene_evaluatePuzzles]
    exact Evaluation.isSettled_iff
  rcases Evaluation.exists_goesOn_passes limit.toNat
    { scene } with ⟨solved, hGoesOn⟩
  refine ⟨hSettled, ?_, ?_, ?_, ?_⟩
  · intro passes
    have hBefore :
        .passLimitHit passes ∉
          (Evaluation.passes limit.toNat { scene }).warnings :=
      fun hMem =>
        List.not_mem_nil (hGoesOn.warnings passes hMem)
    rw [warnings_evaluatePuzzles, List.mem_append]
    cases hReport : evaluation.settled <;> simp [hBefore]
  · have hLess := hGoesOn.scene.length_unsolved
    have hLength :
        evaluation.solved.length = solved.length := by
      rw [solved_evaluatePuzzles, hGoesOn.solved]
      simp
    rw [hLength]
    exact Nat.le_trans (Nat.le_add_left _ _) hLess
  · intro hLimit
    rw [settled_evaluatePuzzles]
    exact Evaluation.settled_passes hLimit
  · intro hReport again
    have hIdle :
        Evaluation.isSettled { scene := evaluation.scene } =
          true :=
      Evaluation.isSettled_iff.mpr (hSettled.mp hReport)
    have hAgain :=
      Evaluation.passes_of_isSettled hIdle again.toNat
    simp [evaluatePuzzles, hAgain]

/-
  Two puzzles of which the first needs the second: one pass
  leaves the first one ready.
-/
example :
    let scene : Scene :=
      { world :=
          { puzzles :=
              [{ id := "b", name := "B", dependsOn := ["a"] },
                { id := "a", name := "A" }] }
        session := .starting default "hall" }
    (scene.evaluatePuzzles 1).solved = ["a"] ∧
      (scene.evaluatePuzzles 1).settled = false ∧
      (scene.evaluatePuzzles 2).solved = ["a", "b"] ∧
      (scene.evaluatePuzzles 2).settled = true := by
  decide

end Scene

end TextAdventure
