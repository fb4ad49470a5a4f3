import TextAdventure.Direction

/-
  Exit keys: texts of the form `room:direction`.

  A room id may itself hold colons, so the direction is what
  follows the last one.

  Key definitions include:
    * `ExitKey`
    * `ExitKey.ofText?`
    * `ExitKey.text`
-/

namespace TextAdventure

------------------------------------------------------------
-- Splitting
------------------------------------------------------------

/- The parts of a text around the last separator. -/
def splitAtLast? (separator : Char) :
    List Char → Option (List Char × List Char)
| [] => none
| c :: rest =>
    match splitAtLast? separator rest with
    | some (before, after) => some (c :: before, after)
    | none => if c = separator then some ([], rest) else none

/- The two parts and the separator make up the text. -/
theorem eq_append_of_splitAtLast?
    {separator : Char} :
    ∀ {text before after : List Char},
      splitAtLast? separator text = some (before, after) →
        text = before ++ separator :: after
| [], _, _, hSplit => by simp [splitAtLast?] at hSplit
| c :: rest, before, after, hSplit => by
    unfold splitAtLast? at hSplit
    split at hSplit
    · rename_i front back hRest
      simp only [Option.some.injEq, Prod.mk.injEq] at hSplit
      rw [eq_append_of_splitAtLast? hRest,
        ← hSplit.1, ← hSplit.2]
      rfl
    · split at hSplit
      · rename_i hEq
        simp only [Option.some.injEq, Prod.mk.injEq] at hSplit
        rw [← hSplit.1, ← hSplit.2, hEq]
        rfl
      · simp at hSplit

/- What follows the last separator is split off. -/
theorem splitAtLast?_append
    {separator : Char}
    {after : List Char}
    (hNone : separator ∉ after)
    (before : List Char) :
    splitAtLast? separator (before ++ separator :: after) =
      some (before, after) := by
  have hWhole : splitAtLast? separator after = none := by
    induction after with
    | nil => rfl
    | cons c rest ih =>
        rw [List.mem_cons, not_or] at hNone
        simp [splitAtLast?, ih hNone.2, Ne.symm hNone.1]
  induction before with
  | nil => simp [splitAtLast?, hWhole]
  | cons c rest ih => simp [splitAtLast?, ih]

------------------------------------------------------------
-- Exit Keys
------------------------------------------------------------

/- A room and a direction out of it. -/
structure ExitKey where
  room : String
  direction : Direction
deriving DecidableEq

namespace ExitKey

/- The text of a key. -/
def text (key : ExitKey) : String :=
  key.room ++ ":" ++ key.direction.name

/-
  The key that a text spells. The room is not empty, and any
  word for a direction will do.
-/
def ofText? (text : String) : Option ExitKey := do
  let (room, word) ← splitAtLast? ':' text.toList
  let direction ← Direction.ofWord? (String.ofList word)
  if room.isEmpty then
    none
  else
    some ⟨String.ofList room, direction⟩

end ExitKey

end TextAdventure
