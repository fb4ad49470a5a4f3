/-
  Outcomes: what one command came to.

  Key definitions include:
    * `Outcome`
-/

namespace TextAdventure

/-
  What the player is told after a command, and the first
  puzzle that it solved.
-/
structure Outcome where
  success : Bool
  message : String
  solvedPuzzle : Option String := none
deriving DecidableEq

namespace Outcome

/- A command that was refused. -/
def failure (message : String) : Outcome where
  success := false
  message := message

end Outcome

end TextAdventure
