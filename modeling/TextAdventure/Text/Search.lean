/-
  Looking for one text inside another.

  Key definitions include:
    * `Text.stripStart?`
    * `Text.contains`
-/

namespace TextAdventure

namespace Text

------------------------------------------------------------
-- Beginnings
------------------------------------------------------------

/- What follows a beginning, if the text begins so. -/
def stripStart? : List Char → List Char → Option (List Char)
| [], text => some text
| c :: start, d :: text =>
    if c = d then stripStart? start text else none
| _ :: _, [] => none

/- A text begins so exactly when it is the joined parts. -/
theorem stripStart?_eq_some_iff
    {start text rest : List Char} :
    stripStart? start text = some rest ↔
      text = start ++ rest := by
  induction start generalizing text with
  | nil => simp [stripStart?]
  | cons c start ih =>
      cases text with
      | nil => simp [stripStart?]
      | cons d text =>
          by_cases hEq : c = d
          · subst hEq
            simp [stripStart?, ih]
          · simp [stripStart?, hEq, Ne.symm hEq]

------------------------------------------------------------
-- Parts
------------------------------------------------------------

/- Whether a part occurs somewhere in a text. -/
def occursIn (part : List Char) : List Char → Bool
| [] => part.isEmpty
| c :: text =>
    (stripStart? part (c :: text)).isSome ||
      occursIn part text

/- Whether a text contains another one. -/
def contains (text part : String) : Bool :=
  occursIn part.toList text.toList

/- A text replaced everywhere, from left to right. -/
def replaceWithin
    (old new : List Char) : Nat → List Char → List Char
| 0, text => text
| _ + 1, [] => []
| steps + 1, c :: text =>
    match stripStart? old (c :: text) with
    | some rest => new ++ replaceWithin old new steps rest
    | none => c :: replaceWithin old new steps text

end Text

end TextAdventure
