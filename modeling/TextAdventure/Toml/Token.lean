import TextAdventure.Decimal.Reading
import TextAdventure.Session.Timestamp
import TextAdventure.Text.Hexadecimal
import TextAdventure.Toml.Basic

/-
  The words of TOML: blanks and line ends, keys, strings,
  numbers and points in time.

  A reader takes a text and gives what it has read and what
  follows it.

  Key definitions include:
    * `Toml.lineEnd?`
    * `Toml.scanKey?`
    * `Toml.scanString?`
    * `Toml.scanNumber?`
    * `Toml.scanTime?`
-/

namespace TextAdventure

namespace Toml

------------------------------------------------------------
-- Blanks, Comments And Line Ends
------------------------------------------------------------

/- Whether a character may stand in a comment or a string. -/
def isPrintable (c : Char) : Bool :=
  c == '\t' || (0x20 ≤ c.toNat && c.toNat != 0x7F)

/- Skip spaces and tabs. -/
def skipBlanks (text : List Char) : List Char :=
  text.dropWhile (fun c => c == ' ' || c == '\t')

/- Skip a comment, if there is one. -/
def skipComment : List Char → List Char
| '#' :: rest => rest.dropWhile isPrintable
| text => text

/- What follows a line break. -/
def lineBreak? : List Char → Option (List Char)
| '\n' :: rest => some rest
| '\r' :: '\n' :: rest => some rest
| _ => none

/- What follows the end of a line; the text may end there. -/
def lineEnd? (text : List Char) : Option (List Char) :=
  match skipComment (skipBlanks text) with
  | [] => some []
  | text => lineBreak? text

/- Skip blanks, comments and line breaks. -/
def skipLines : Nat → List Char → List Char
| 0, text => text
| steps + 1, text =>
    let text := skipComment (skipBlanks text)
    match lineBreak? text with
    | some rest => skipLines steps rest
    | none => text

/- What follows a mark. -/
def afterMark? (mark : Char) : List Char → Option (List Char)
| c :: rest => if c = mark then some rest else none
| [] => none

------------------------------------------------------------
-- Strings
------------------------------------------------------------

/- The character with a hexadecimal number of so many digits. -/
def hexChar? (count : Nat) (text : List Char) :
    Option Char := do
  let code ← Text.hexNumber? (text.take count)
  if count ≤ text.length ∧ code.isValidChar then
    some (Char.ofNat code)
  else
    none

/-
  The character that an escape stands for, and the number of
  characters behind the backslash that it takes.
-/
def escape? : List Char → Option (Char × Nat)
| 'b' :: _ => some ('\x08', 1)
| 't' :: _ => some ('\t', 1)
| 'n' :: _ => some ('\n', 1)
| 'f' :: _ => some ('\x0c', 1)
| 'r' :: _ => some ('\r', 1)
| '"' :: _ => some ('"', 1)
| '\\' :: _ => some ('\\', 1)
| 'u' :: rest => (hexChar? 4 rest).map (fun c => (c, 5))
| 'U' :: rest => (hexChar? 8 rest).map (fun c => (c, 9))
| _ => none

/-
  A string after its opening quote. The first argument holds
  the characters read so far, last one first.
-/
def scanBasic :
    List Char → List Char → Option (String × List Char)
| _, [] => none
| read, c :: rest =>
    if c = '"' then
      some (String.ofList read.reverse, rest)
    else if c = '\\' then
      match escape? rest with
      | some (image, count) =>
          scanBasic (image :: read) (rest.drop count)
      | none => none
    else if isPrintable c then
      scanBasic (c :: read) rest
    else
      none
termination_by _ text => text.length
decreasing_by all_goals simp; try omega

/- A string without escapes after its opening quote. -/
def scanLiteral (text : List Char) :
    Option (String × List Char) :=
  let content :=
    text.takeWhile (fun c => c != '\'' && isPrintable c)
  (afterMark? '\'' (text.drop content.length)).map
    (fun rest => (String.ofList content, rest))

/-
  The end of a string of several lines: three quotes, before
  which two more belong to the string.
-/
def closing? (quote : Char) :
    List Char → Option (List Char × List Char)
| a :: b :: c :: rest =>
    if a = quote ∧ b = quote ∧ c = quote then
      let extra :=
        (rest.take 2).takeWhile (fun d => d == quote)
      some (extra, rest.drop extra.length)
    else
      none
| _ => none

/- Whether blanks up to a line break follow. -/
def endsLine (text : List Char) : Bool :=
  (lineBreak? (skipBlanks text)).isSome

/- Skip blanks and line breaks. -/
def skipSpacing : List Char → List Char
| '\r' :: '\n' :: rest => skipSpacing rest
| c :: rest =>
    if c == ' ' || c == '\t' || c == '\n' then
      skipSpacing rest
    else
      c :: rest
| [] => []

/- Skipping does not lengthen a text. -/
theorem length_skipSpacing_le (text : List Char) :
    (skipSpacing text).length ≤ text.length := by
  fun_induction skipSpacing text <;> simp <;> omega

/-
  A string of several lines after its opening quotes. A
  backslash at the end of a line swallows all blanks and
  line breaks after it.
-/
def scanLongBasic :
    List Char → List Char → Option (String × List Char)
| _, [] => none
| read, c :: rest =>
    match closing? '"' (c :: rest) with
    | some (extra, after) =>
        some (String.ofList (read.reverse ++ extra), after)
    | none =>
        if c = '\\' then
          if endsLine rest then
            scanLongBasic read (skipSpacing rest)
          else
            match escape? rest with
            | some (image, count) =>
                scanLongBasic (image :: read) (rest.drop count)
            | none => none
        else if isPrintable c || c == '\n' then
          scanLongBasic (c :: read) rest
        else if c == '\r' && rest.head? == some '\n' then
          scanLongBasic read rest
        else
          none
termination_by _ text => text.length
decreasing_by
  · exact Nat.lt_succ_of_le (length_skipSpacing_le rest)
  all_goals simp; try omega

/- The same without escapes. -/
def scanLongLiteral :
    List Char → List Char → Option (String × List Char)
| _, [] => none
| read, c :: rest =>
    match closing? '\'' (c :: rest) with
    | some (extra, after) =>
        some (String.ofList (read.reverse ++ extra), after)
    | none =>
        if isPrintable c || c == '\n' then
          scanLongLiteral (c :: read) rest
        else if c == '\r' && rest.head? == some '\n' then
          scanLongLiteral read rest
        else
          none

/- A text without a line break in front. -/
def dropLineBreak (text : List Char) : List Char :=
  (lineBreak? text).getD text

/- A string of any of the four kinds. -/
def scanString? : List Char → Option (String × List Char)
| '"' :: '"' :: '"' :: rest =>
    scanLongBasic [] (dropLineBreak rest)
| '\'' :: '\'' :: '\'' :: rest =>
    scanLongLiteral [] (dropLineBreak rest)
| '"' :: rest => scanBasic [] rest
| '\'' :: rest => scanLiteral rest
| _ => none

------------------------------------------------------------
-- Keys
------------------------------------------------------------

/- Whether a character may stand in a key without quotes. -/
def isBare (c : Char) : Bool :=
  ('A' ≤ c && c ≤ 'Z') || ('a' ≤ c && c ≤ 'z') ||
    ('0' ≤ c && c ≤ '9') || c == '_' || c == '-'

/- A key without dots. -/
def scanSimpleKey? : List Char → Option (String × List Char)
| '"' :: rest => scanBasic [] rest
| '\'' :: rest => scanLiteral rest
| text =>
    let key := text.takeWhile isBare
    if key.isEmpty then none
    else some (String.ofList key, text.dropWhile isBare)

/- The parts of a key between its dots. -/
def scanKeys? : Nat → List Char →
    Option (List String × List Char)
| 0, _ => none
| steps + 1, text => do
    let (key, rest) ← scanSimpleKey? (skipBlanks text)
    let rest := skipBlanks rest
    match rest with
    | '.' :: rest =>
        let (keys, rest) ← scanKeys? steps rest
        return (key :: keys, rest)
    | _ => return ([key], rest)

/- The most parts that a key may have. -/
def maxKeyParts : Nat := 79

/- A key, with blanks around it. -/
def scanKey? (text : List Char) :
    Option (List String × List Char) :=
  scanKeys? maxKeyParts text

------------------------------------------------------------
-- Numbers
------------------------------------------------------------

/- Digits of a base, with single underscores between them. -/
def moreDigits (base : Nat) : List Char → List Nat × List Char
| [] => ([], [])
| '_' :: c :: rest =>
    match Text.hexDigit? c with
    | some digit =>
        if digit < base then
          let more := moreDigits base rest
          (digit :: more.1, more.2)
        else
          ([], '_' :: c :: rest)
    | none => ([], '_' :: c :: rest)
| c :: rest =>
    match Text.hexDigit? c with
    | some digit =>
        if digit < base then
          let more := moreDigits base rest
          (digit :: more.1, more.2)
        else
          ([], c :: rest)
    | none => ([], c :: rest)

/- A number of at least one digit of a base. -/
def digits? (base : Nat) (text : List Char) :
    Option (List Nat × List Char) :=
  if text.head? = some '_' then
    none
  else
    let parts := moreDigits base text
    if parts.1.isEmpty then none else some parts

/- The digits before the point; zero stands alone. -/
def wholeDigits? : List Char → Option (List Nat × List Char)
| '0' :: rest => some ([0], rest)
| text => digits? 10 text

/- A number without its sign, and whether it has one. -/
def splitSign : List Char → Bool × List Char
| '-' :: rest => (true, rest)
| '+' :: rest => (false, rest)
| text => (false, text)

/- An integer, if 64 bits hold it. -/
def integer? (value : Int) (rest : List Char) :
    Option (Toml × List Char) :=
  if Int64.minValue.toInt ≤ value ∧
      value ≤ Int64.maxValue.toInt then
    some (.integer value, rest)
  else
    none

/- The digits behind a point, if there is one. -/
def fraction? : List Char → Option (List Nat × List Char)
| '.' :: rest => digits? 10 rest
| text => some ([], text)

/- The number behind an exponent mark, if there is one. -/
def exponent? : List Char → Option (Int × List Char)
| c :: rest =>
    if c = 'e' ∨ c = 'E' then do
      let (negative, rest) := splitSign rest
      let (digits, rest) ← digits? 10 rest
      let size : Int := Text.numberOf 10 digits
      return (if negative then -size else size, rest)
    else
      some (0, c :: rest)
| [] => some (0, [])

/- The characters of a text before what follows. -/
def literalBefore (text rest : List Char) : String :=
  String.ofList (text.take (text.length - rest.length))

/- A decimal number; a positive one must have a double. -/
def scanDecimal? (text : List Char) :
    Option (Toml × List Char) := do
  let (negative, unsigned) := splitSign text
  let (whole, afterWhole) ← wholeDigits? unsigned
  let (fraction, afterFraction) ← fraction? afterWhole
  let (exponent, rest) ← exponent? afterFraction
  if rest.length = afterWhole.length then
    let size : Int := Text.numberOf 10 whole
    integer? (if negative then -size else size) rest
  else
    let literal :=
      Decimal.Literal.mk negative whole fraction exponent
    if literal.overflows && !negative then
      none
    else
      some (.float (literalBefore text rest), rest)

/- A number that is infinite or none, without its sign. -/
def scanSpecial? (text : List Char) :
    Option (Toml × List Char) :=
  match (splitSign text).2 with
  | 'i' :: 'n' :: 'f' :: rest =>
      some (.float (literalBefore text rest), rest)
  | 'n' :: 'a' :: 'n' :: rest =>
      some (.float (literalBefore text rest), rest)
  | _ => none

/- An integer of a base. -/
def scanBased? (base : Nat) (text : List Char) :
    Option (Toml × List Char) := do
  let (digits, rest) ← digits? base text
  integer? (Text.numberOf base digits) rest

/- A number of any kind. -/
def scanNumber? (text : List Char) :
    Option (Toml × List Char) :=
  match text with
  | '0' :: 'x' :: rest => scanBased? 16 rest
  | '0' :: 'o' :: rest => scanBased? 8 rest
  | '0' :: 'b' :: rest => scanBased? 2 rest
  | _ => (scanSpecial? text).or (scanDecimal? text)

------------------------------------------------------------
-- Points In Time
------------------------------------------------------------

/- A number of just so many digits. -/
def fixedDigits? (count : Nat) (text : List Char) :
    Option (Nat × List Char) := do
  let digits ← (text.take count).mapM Text.hexDigit?
  if digits.length = count ∧ digits.all (· < 10) then
    some (Text.numberOf 10 digits, text.drop count)
  else
    none

/- What follows a date. -/
def afterDate? (text : List Char) : Option (List Char) := do
  let (year, rest) ← fixedDigits? 4 text
  let rest ← afterMark? '-' rest
  let (month, rest) ← fixedDigits? 2 rest
  let rest ← afterMark? '-' rest
  let (day, rest) ← fixedDigits? 2 rest
  if Date.isValid ⟨year, month, day⟩ then some rest else none

/- What follows a fraction of a second, if there is one. -/
def afterFraction? : List Char → Option (List Char)
| '.' :: rest =>
    if (rest.head?.map Char.isDigit).getD false then
      some (rest.dropWhile Char.isDigit)
    else
      none
| text => some text

/- What follows a time of day. -/
def afterTime? (text : List Char) : Option (List Char) := do
  let (hour, rest) ← fixedDigits? 2 text
  let rest ← afterMark? ':' rest
  let (minute, rest) ← fixedDigits? 2 rest
  let rest ← afterMark? ':' rest
  let (second, rest) ← fixedDigits? 2 rest
  if hour ≤ 23 ∧ minute ≤ 59 ∧ second ≤ 60 then
    afterFraction? rest
  else
    none

/- What follows an offset, if there is one. -/
def afterOffset? : List Char → Option (List Char)
| 'Z' :: rest => some rest
| 'z' :: rest => some rest
| c :: rest =>
    if c = '+' ∨ c = '-' then do
      let (hour, rest) ← fixedDigits? 2 rest
      let rest ← afterMark? ':' rest
      let (minute, rest) ← fixedDigits? 2 rest
      if hour ≤ 23 ∧ minute ≤ 59 then some rest else none
    else
      some (c :: rest)
| [] => some []

/- What follows the time of day behind a date, if it has one. -/
def afterDayTime? : List Char → Option (List Char)
| c :: rest =>
    if c = 'T' ∨ c = 't' ∨ c = ' ' then
      match afterTime? rest with
      | some rest => afterOffset? rest
      | none => some (c :: rest)
    else
      some (c :: rest)
| [] => some []

/- A date, a time of day, or both. -/
def scanTime? (text : List Char) :
    Option (Toml × List Char) := do
  let rest ←
    match afterDate? text with
    | some rest => afterDayTime? rest
    | none => afterTime? text
  return (.time (literalBefore text rest), rest)

end Toml

end TextAdventure
