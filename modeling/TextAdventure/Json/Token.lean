import TextAdventure.Decimal.Reading
import TextAdventure.Json.Basic
import TextAdventure.Text.Hexadecimal
import TextAdventure.Text.Search

/-
  The tokens of JSON text.

  Every token takes at least one character, so the number of
  characters bounds the number of steps.

  Key definitions include:
    * `Json.Token`
    * `Json.Token.scan`
-/

namespace TextAdventure

namespace Json

------------------------------------------------------------
-- Tokens
------------------------------------------------------------

/-
  A mark, a string, or another value without parts. A string
  with half of a surrogate pair has no text.
-/
inductive Token where
| openArray
| closeArray
| openObject
| closeObject
| comma
| colon
| string (text : Option String)
| scalar (value : Json)

namespace Token

------------------------------------------------------------
-- Strings
------------------------------------------------------------

/- The first half of a surrogate pair. -/
def isHighSurrogate (unit : Nat) : Bool :=
  0xD800 ≤ unit && unit < 0xDC00

/- The second half of a surrogate pair. -/
def isLowSurrogate (unit : Nat) : Bool :=
  0xDC00 ≤ unit && unit < 0xE000

/- The character that a one-letter escape stands for. -/
def escaped? : Char → Option Char
| '"' => some '"'
| '\\' => some '\\'
| '/' => some '/'
| 'b' => some '\u0008'
| 'f' => some '\u000C'
| 'n' => some '\n'
| 'r' => some '\u000D'
| 't' => some '\t'
| _ => none

/- A part of a string; surrogates still have to be paired. -/
inductive Piece where
| char (c : Char)
| surrogate (unit : Nat)

/- The piece that a number behind `\\u` stands for. -/
def pieceOfUnit (unit : Nat) : Piece :=
  if isHighSurrogate unit || isLowSurrogate unit then
    .surrogate unit
  else
    .char (Char.ofNat unit)

/-
  Read a string after its opening quote. The first argument
  holds the pieces read so far, last one first; the result
  holds all pieces and what follows the closing quote.
-/
def scanString :
    List Piece → List Char → Option (List Piece × List Char)
| _, [] => none
| read, '"' :: rest => some (read.reverse, rest)
| read, '\\' :: 'u' :: a :: b :: c :: d :: rest =>
    match Text.hexNumber? [a, b, c, d] with
    | some unit => scanString (pieceOfUnit unit :: read) rest
    | none => none
| read, '\\' :: c :: rest =>
    match escaped? c with
    | some image => scanString (.char image :: read) rest
    | none => none
| read, c :: rest =>
    if c.toNat < 0x20 ∨ c = '\\' then
      none
    else
      scanString (.char c :: read) rest

/- The characters of pieces, if all surrogates are paired. -/
def charsOf? : List Piece → Option (List Char)
| [] => some []
| .char c :: rest => (charsOf? rest).map (c :: ·)
| .surrogate high :: .surrogate low :: rest =>
    if isHighSurrogate high && isLowSurrogate low then
      let code :=
        0x10000 + (high - 0xD800) * 0x400 + (low - 0xDC00)
      (charsOf? rest).map (Char.ofNat code :: ·)
    else
      none
| .surrogate _ :: _ => none

/- The text of a string, if all surrogates are paired. -/
def textOf? (pieces : List Piece) : Option String :=
  (charsOf? pieces).map String.ofList

------------------------------------------------------------
-- Numbers
------------------------------------------------------------

/- Whether a character is a decimal digit. -/
def isDigit (c : Char) : Bool :=
  '0' ≤ c && c ≤ '9'

/- The digits in front, and what follows them. -/
def splitDigits (text : List Char) : List Nat × List Char :=
  ((text.takeWhile isDigit).map
      (fun c => c.toNat - '0'.toNat),
    text.dropWhile isDigit)

/- The digits in front, of which there must be one. -/
def someDigits?
    (text : List Char) : Option (List Nat × List Char) :=
  let parts := splitDigits text
  if parts.1.isEmpty then none else some parts

/- The digits behind a point, if there is one. -/
def scanFraction? :
    List Char → Option (Option (List Nat) × List Char)
| '.' :: rest =>
    (someDigits? rest).map
      (fun parts => (some parts.1, parts.2))
| text => some (none, text)

/- The number behind an exponent mark, if there is one. -/
def scanExponent? :
    List Char → Option (Option Int × List Char)
| c :: rest =>
    if c = 'e' ∨ c = 'E' then
      match rest with
      | '-' :: rest =>
          (someDigits? rest).map (fun parts =>
            (some (-Int.ofNat (Decimal.numeral parts.1)),
              parts.2))
      | '+' :: rest =>
          (someDigits? rest).map (fun parts =>
            (some (Int.ofNat (Decimal.numeral parts.1)),
              parts.2))
      | rest =>
          (someDigits? rest).map (fun parts =>
            (some (Int.ofNat (Decimal.numeral parts.1)),
              parts.2))
    else
      some (none, c :: rest)
| [] => some (none, [])

/-
  The value of a number literal: an integer when it has
  neither fraction nor exponent, is not a negative zero and
  fits 64 bits, and a double otherwise.
-/
def numberValue
    (negative : Bool)
    (whole : List Nat)
    (fraction : Option (List Nat))
    (exponent : Option Int) : Json :=
  let number : Int := Decimal.numeral whole
  let value := if negative then -number else number
  let isInteger :=
    fraction.isNone && exponent.isNone &&
      !(negative && number == 0) &&
      Int64.minValue.toInt ≤ value && value < UInt64.size
  if isInteger then
    .integer value
  else
    let double :=
      (Decimal.Literal.mk negative whole
        (fraction.getD []) (exponent.getD 0)).toFloat
    if double.isInf then .unreadable else .float double

/- Read a number literal after its sign. -/
def scanNumber?
    (negative : Bool)
    (text : List Char) : Option (Json × List Char) := do
  let (whole, rest) ← someDigits? text
  if whole.length > 1 ∧ whole.head? = some 0 then
    none
  let (fraction, rest) ← scanFraction? rest
  let (exponent, rest) ← scanExponent? rest
  return (numberValue negative whole fraction exponent, rest)

------------------------------------------------------------
-- Scanning
------------------------------------------------------------

/- The blank characters between tokens. -/
def isGap (c : Char) : Bool :=
  c == ' ' || c == '\n' || c == '\t' || c == '\u000D'

/- The token at the front of a text, and what follows it. -/
def next? : List Char → Option (Token × List Char)
| [] => none
| '[' :: rest => some (.openArray, rest)
| ']' :: rest => some (.closeArray, rest)
| '\x7b' :: rest => some (.openObject, rest)
| '\x7d' :: rest => some (.closeObject, rest)
| ',' :: rest => some (.comma, rest)
| ':' :: rest => some (.colon, rest)
| '"' :: rest =>
    (scanString [] rest).map (fun parts =>
      (.string (textOf? parts.1), parts.2))
| 'n' :: rest =>
    (Text.stripStart? "ull".toList rest).map (fun rest =>
      (.scalar .null, rest))
| 't' :: rest =>
    (Text.stripStart? "rue".toList rest).map (fun rest =>
      (.scalar (.bool true), rest))
| 'f' :: rest =>
    (Text.stripStart? "alse".toList rest).map (fun rest =>
      (.scalar (.bool false), rest))
| '-' :: rest =>
    (scanNumber? true rest).map (fun parts =>
      (.scalar parts.1, parts.2))
| text =>
    (scanNumber? false text).map (fun parts =>
      (.scalar parts.1, parts.2))

/- The tokens of a text, in at most the given steps. -/
def scanWithin : Nat → List Char → Option (List Token)
| 0, text =>
    if (text.dropWhile isGap).isEmpty then some [] else none
| steps + 1, text =>
    let text := text.dropWhile isGap
    if text.isEmpty then
      some []
    else
      match next? text with
      | none => none
      | some (token, rest) =>
          (scanWithin steps rest).map (token :: ·)

/- The tokens of a text. -/
def scan (text : String) : Option (List Token) :=
  let chars := text.toList
  scanWithin chars.length chars

end Token

end Json

end TextAdventure
