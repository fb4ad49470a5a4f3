/-
  Similarity of two texts, as used for "did you mean".

  `jaro` counts the characters that two texts share in
  nearby places and how many of these are out of order;
  `jaroWinkler` raises the score of texts that begin alike.
  The arithmetic is that of doubles, in the order written.

  Key definitions include:
    * `Text.jaro`
    * `Text.jaroWinkler`
-/

namespace TextAdventure

namespace Text

------------------------------------------------------------
-- Matching Characters
------------------------------------------------------------

/- A character of the second text, and whether it is used. -/
structure Slot where
  char : Char
  used : Bool
deriving DecidableEq

/-
  Use the first free slot that holds the character and
  whose place, counted from `place`, lies in `[low, high)`.
-/
def useSlot
    (c : Char)
    (low high : Nat) :
    Nat → List Slot → Option (List Slot)
| _, [] => none
| place, slot :: rest =>
    if low ≤ place ∧ place < high ∧
        slot.used = false ∧ slot.char = c then
      some ({ slot with used := true } :: rest)
    else
      (useSlot c low high (place + 1) rest).map (slot :: ·)

/-
  Match the characters of the first text, from place `place`
  on, to slots at most `range` places away. The result holds
  the matched characters and the slots.
-/
def matchSlots
    (range : Nat) :
    Nat → List Char → List Slot → List Char × List Slot
| _, [], slots => ([], slots)
| place, c :: rest, slots =>
    match
        useSlot c (place - range) (place + range + 1)
          0 slots with
    | some slots =>
        let later := matchSlots range (place + 1) rest slots
        (c :: later.1, later.2)
    | none => matchSlots range (place + 1) rest slots

/- The number of places at which two lists differ. -/
def differences (left right : List Char) : Nat :=
  (left.zip right).countP (fun pair => pair.1 != pair.2)

/- The length of the common beginning of two lists. -/
def sharedStart : List Char → List Char → Nat
| c :: left, d :: right =>
    if c = d then sharedStart left right + 1 else 0
| _, _ => 0

------------------------------------------------------------
-- Scores
------------------------------------------------------------

/- The Jaro similarity, between 0 and 1. -/
def jaro (left right : List Char) : Float :=
  if left = [] ∧ right = [] then
    1.0
  else if left = [] ∨ right = [] then
    0.0
  else
    let range := max left.length right.length / 2 - 1
    let matched :=
      matchSlots range 0 left (right.map (Slot.mk · false))
    let count := matched.1.length
    if count = 0 then
      0.0
    else
      let others :=
        (matched.2.filter Slot.used).map Slot.char
      let transposed := differences matched.1 others / 2
      (count.toFloat / left.length.toFloat +
          count.toFloat / right.length.toFloat +
          (count.toFloat - transposed.toFloat) /
            count.toFloat) / 3.0

/- The Jaro similarity, raised for a shared beginning. -/
def jaroWinkler (left right : String) : Float :=
  let score := jaro left.toList right.toList
  if score > 0.7 then
    let start :=
      sharedStart (left.toList.take 4) right.toList
    score + 0.1 * start.toFloat * (1.0 - score)
  else
    score

end Text

end TextAdventure
