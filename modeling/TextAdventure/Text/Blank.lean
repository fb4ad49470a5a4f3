/-
  Blank characters, trimming and splitting into words.

  A character is blank when it has the Unicode property
  White_Space. The zero-width space and the byte order mark
  do not have it.

  Key definitions include:
    * `Text.isBlank`
    * `Text.trim`
    * `Text.words`
    * `Text.joinWith`
-/

namespace TextAdventure

namespace Text

------------------------------------------------------------
-- Blank Characters
------------------------------------------------------------

/- The characters with the property White_Space. -/
def isBlank (c : Char) : Bool :=
  (9 ≤ c.val && c.val ≤ 13) ||
    c.val == 0x20 ||
    c.val == 0x85 ||
    c.val == 0xA0 ||
    c.val == 0x1680 ||
    (0x2000 ≤ c.val && c.val ≤ 0x200A) ||
    c.val == 0x2028 ||
    c.val == 0x2029 ||
    c.val == 0x202F ||
    c.val == 0x205F ||
    c.val == 0x3000

------------------------------------------------------------
-- Trimming
------------------------------------------------------------

/- Drop the blank characters in front. -/
def trimFront (chars : List Char) : List Char :=
  chars.dropWhile isBlank

/- Drop the blank characters at the end. -/
def trimBack (chars : List Char) : List Char :=
  (trimFront chars.reverse).reverse

/- Drop the blank characters at both ends. -/
def trimChars (chars : List Char) : List Char :=
  trimBack (trimFront chars)

/- Drop the blank characters at both ends of a text. -/
def trim (text : String) : String :=
  String.ofList (trimChars text.toList)

/- What is trimmed in front starts with no blank character. -/
theorem isBlank_head_trimFront
    {chars rest : List Char}
    {c : Char}
    (hTrim : trimFront chars = c :: rest) :
    isBlank c = false := by
  induction chars with
  | nil => simp [trimFront] at hTrim
  | cons d others ih =>
      cases hBlank : isBlank d with
      | true =>
          apply ih
          simpa [trimFront, hBlank] using hTrim
      | false =>
          have hEq : d = c := by
            have := hTrim
            simp [trimFront, hBlank] at this
            exact this.1
          rw [← hEq]
          exact hBlank

------------------------------------------------------------
-- Words
------------------------------------------------------------

/-
  The maximal runs of characters that are not blank. The
  first argument is the run read so far, last character
  first.
-/
def wordRuns : List Char → List Char → List (List Char)
| [], [] => []
| run, [] => [run.reverse]
| run, c :: rest =>
    if isBlank c then
      match run with
      | [] => wordRuns [] rest
      | _ => run.reverse :: wordRuns [] rest
    else
      wordRuns (c :: run) rest

/- The words of a text, in order. -/
def words (text : String) : List String :=
  (wordRuns [] text.toList).map String.ofList

------------------------------------------------------------
-- Joining
------------------------------------------------------------

/- Texts joined by a separator. -/
def joinWith (separator : String) : List String → String
| [] => ""
| [text] => text
| text :: rest => text ++ separator ++ joinWith separator rest

/- The texts that are not empty, one per line. -/
def joinLines (texts : List String) : String :=
  joinWith "\n" (texts.filter (fun text => text != ""))

end Text

end TextAdventure
