import TextAdventure.Scene.Change

/-
  Solving puzzles.

  All puzzles are gone through in content order, again and
  again until a pass solves none, so that a chain of puzzles
  is solved by the command that started it. The number of
  passes is limited.

  Key definitions include:
    * `Scene.holds`
    * `Scene.isReady`
    * `Evaluation`
    * `Scene.evaluatePuzzles`
-/

namespace TextAdventure

namespace Scene

------------------------------------------------------------
-- Conditions
------------------------------------------------------------

/- A property as a condition reads it; no entry is false. -/
def conditionValue? (thing : Thing) (path : String) :
    Option Value :=
  (thing.property? path).or
    ((Property.customKey? path).map
      (fun _ => .boolean false))

/- Whether a condition holds. -/
def holds (scene : Scene) (condition : Condition) : Bool :=
  let expected := condition.value
  match condition.kind with
  | .thingState =>
      match scene.world.thing? condition.target,
          condition.property with
      | some thing, some path =>
          match conditionValue? thing path with
          | some actual => actual.looselyEquals expected
          | none => false
      | _, _ => false
  | .inventory =>
      scene.session.hasItem condition.target ==
        expected.isTruthy
  | .flag =>
      ((scene.session.flag? condition.target).getD
        (.boolean false)).looselyEquals expected
  | .room =>
      (scene.session.currentRoom == condition.target) ==
        expected.isTruthy

/-
  Whether a puzzle is unsolved, all it depends on is solved
  and all its conditions hold.
-/
def isReady (scene : Scene) (puzzle : Puzzle) : Bool :=
  !puzzle.solved &&
    !scene.session.isSolved puzzle.id &&
    puzzle.dependsOn.all scene.session.isSolved &&
    puzzle.conditions.all scene.holds

/- The scene with a puzzle solved, before its effects. -/
def markSolved (scene : Scene) (puzzle : String) : Scene where
  world := scene.world.markSolved puzzle
  session :=
    { scene.session with
        solvedPuzzles :=
          scene.session.solvedPuzzles ++ [puzzle] }

end Scene

------------------------------------------------------------
-- Evaluation
------------------------------------------------------------

/-
  What going through the puzzles has come to. It is settled
  once it is known that no puzzle is left to solve.
-/
structure Evaluation where
  scene : Scene
  solved : List String := []
  messages : List String := []
  warnings : List Warning := []
  settled : Bool := false
deriving DecidableEq

namespace Evaluation

/- Solve a puzzle, with its effects. -/
def solve (evaluation : Evaluation) (puzzle : Puzzle) :
    Evaluation :=
  let applied :=
    (evaluation.scene.markSolved puzzle.id).applyEffects
      puzzle.effects
  { evaluation with
      scene := applied.value
      solved := evaluation.solved ++ [puzzle.id]
      messages := evaluation.messages ++ puzzle.message.toList
      warnings := evaluation.warnings ++ applied.warnings }

/- Solve a puzzle if it is ready. -/
def consider (evaluation : Evaluation) (puzzle : Puzzle) :
    Evaluation :=
  if evaluation.scene.isReady puzzle then
    evaluation.solve puzzle
  else
    evaluation

/- Go once through all puzzles. -/
def pass (evaluation : Evaluation) : Evaluation :=
  evaluation.scene.world.puzzles.foldl consider evaluation

/- Whether no puzzle is ready. -/
def isSettled (evaluation : Evaluation) : Bool :=
  !evaluation.scene.world.puzzles.any
    evaluation.scene.isReady

/-
  Pass after pass until one solves nothing. At the limit it
  is looked up whether a puzzle is still ready.
-/
def passes : Nat → Evaluation → Evaluation
| 0, evaluation =>
    { evaluation with settled := evaluation.isSettled }
| limit + 1, evaluation =>
    let next := evaluation.pass
    if next.solved.length = evaluation.solved.length then
      { next with settled := true }
    else
      passes limit next

end Evaluation

/- Solve what can be solved in a limited number of passes. -/
def Scene.evaluatePuzzles (scene : Scene) (limit : UInt64) :
    Evaluation :=
  let last := Evaluation.passes limit.toNat { scene }
  if last.settled then
    last
  else
    { last with
        warnings := last.warnings ++ [.passLimitHit limit] }

end TextAdventure
