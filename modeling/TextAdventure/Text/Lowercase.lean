import TextAdventure.Text.CaseTable

/-
  Lower-casing of text by the full Unicode mapping.

  Every character maps by the simple mapping, with two
  exceptions: the dotted capital `İ` becomes `i` followed by
  a combining dot, and the capital sigma becomes the final
  form at the end of a word.

  Key definitions include:
    * `Text.lowerChar`
    * `Text.lowercase`
-/

namespace TextAdventure

namespace Text

------------------------------------------------------------
-- Single Characters
------------------------------------------------------------

/- Whether a code point lies in one of the ranges. -/
def inRanges
    (ranges : List (Nat × Nat))
    (code : Nat) : Bool :=
  ranges.any (fun range =>
    range.1 ≤ code && code ≤ range.2)

/- Letters that have case. -/
def isCased (c : Char) : Bool :=
  inRanges casedRanges c.toNat

/- Characters that word casing looks through. -/
def isCaseIgnorable (c : Char) : Bool :=
  inRanges caseIgnorableRanges c.toNat

/- Whether a run holds the code point. -/
def CaseRun.holds (run : CaseRun) (code : Nat) : Bool :=
  run.first ≤ code && code ≤ run.last &&
    (code - run.first) % run.step == 0

/- The simple lower-case mapping of a character. -/
def lowerChar (c : Char) : Char :=
  if c.toNat < 128 then
    if 'A' ≤ c ∧ c ≤ 'Z' then
      Char.ofNat (c.toNat + 32)
    else
      c
  else
    match lowercaseRuns.find? (·.holds c.toNat) with
    | some run => Char.ofNat ((c.toNat : Int) + run.shift).toNat
    | none => c

------------------------------------------------------------
-- Texts
------------------------------------------------------------

/-
  Whether the first character that casing does not look
  through is a cased one.
-/
def meetsCased (chars : List Char) : Bool :=
  match chars.dropWhile isCaseIgnorable with
  | c :: _ => isCased c
  | [] => false

/-
  Lower-case a text from left to right. The first argument
  holds the characters already passed, last one first. A
  sigma is final when a cased letter comes before it and
  none comes after it.
-/
def lowerFrom : List Char → List Char → List Char
| _, [] => []
| passed, c :: rest =>
    let image :=
      if c = 'İ' then
        ['i', '\u0307']
      else if c = 'Σ' then
        if meetsCased passed && !meetsCased rest then
          ['ς']
        else
          ['σ']
      else
        [lowerChar c]
    image ++ lowerFrom (c :: passed) rest

/- The lower-case form of a list of characters. -/
def lowerChars (chars : List Char) : List Char :=
  lowerFrom [] chars

/- The lower-case form of a text. -/
def lowercase (text : String) : String :=
  String.ofList (lowerChars text.toList)

------------------------------------------------------------
-- Examples
------------------------------------------------------------

example : lowercase "NORTH" = "north" := by decide +kernel

example : lowercase "ΟΔΟΣ ΣΑΣ" = "οδος σας" := by
  decide +kernel

example : lowercase "İK" = "i̇k" := by decide +kernel

end Text

end TextAdventure
