import TextAdventure.Decimal.Shortest

/-
  Layouts of doubles as decimal text.

  `plain` writes every digit in its place. `pointed` always
  shows a point or an exponent, so that its text never reads
  as an integer.

  Key definitions include:
    * `Decimal.plain`
    * `Decimal.pointed`
-/

namespace TextAdventure

namespace Decimal

------------------------------------------------------------
-- Digits
------------------------------------------------------------

/- The digits of a decimal. -/
def Scaled.chars (decimal : Scaled) : List Char :=
  Nat.toDigits 10 decimal.digits

/- The place of the decimal point, counted from the front. -/
def Scaled.pointPlace (decimal : Scaled) : Int :=
  (decimal.chars.length : Int) + decimal.exponent

/- A number of zeros. -/
def zeros (count : Nat) : List Char :=
  List.replicate count '0'

/-
  The digits with the point in its place. A whole number
  ends in the text `whole`.
-/
def Scaled.positional
    (whole : List Char)
    (decimal : Scaled) : List Char :=
  let chars := decimal.chars
  let place := decimal.pointPlace
  if 0 ≤ decimal.exponent then
    chars ++ zeros decimal.exponent.toNat ++ whole
  else if 0 < place then
    chars.take place.toNat ++ ['.'] ++
      chars.drop place.toNat
  else
    ['0', '.'] ++ zeros (-place).toNat ++ chars

/- An exponent, always with its sign. -/
def signedPower (power : Int) : List Char :=
  (if power < 0 then '-' else '+') ::
    Nat.toDigits 10 power.natAbs

/- One digit in front of the point, then the exponent. -/
def Scaled.scientific (decimal : Scaled) : List Char :=
  let power := signedPower (decimal.pointPlace - 1)
  match decimal.chars with
  | [] => []
  | [digit] => digit :: 'e' :: power
  | digit :: rest => digit :: '.' :: rest ++ 'e' :: power

------------------------------------------------------------
-- Doubles
------------------------------------------------------------

/-
  A finite double through a layout of its shortest decimal,
  with a sign also on a negative zero.
-/
def layOut
    (tie : Tie)
    (zero : List Char)
    (layout : Scaled → List Char)
    (x : Float) : String :=
  let sign := if isNegative x then ['-'] else []
  let value := Binary.ofFloat x
  let body :=
    if value.significand = 0 then zero
    else layout (value.shortest tie)
  String.ofList (sign ++ body)

/- All digits in their places; a tie goes up. -/
def plain (x : Float) : String :=
  if x.isNaN then
    "NaN"
  else if x.isInf then
    if isNegative x then "-inf" else "inf"
  else
    layOut .up ['0'] (Scaled.positional []) x

/-
  Positional from `0.00001` up to `10 ^ 16`, scientific
  elsewhere; a tie goes to the even digit.
-/
def pointed (x : Float) : String :=
  layOut .even ['0', '.', '0']
    (fun decimal =>
      if -5 < decimal.pointPlace ∧ decimal.pointPlace ≤ 16
      then decimal.positional ['.', '0']
      else decimal.scientific) x

------------------------------------------------------------
-- Examples
------------------------------------------------------------

example : plain 1e21 = "1000000000000000000000" := by
  decide +kernel

example : plain 1.5e-7 = "0.00000015" := by decide +kernel

example : pointed 1e16 = "1e+16" := by decide +kernel

example : pointed 1234.5 = "1234.5" := by decide +kernel

example : pointed 1.5e-7 = "1.5e-7" := by decide +kernel

end Decimal

end TextAdventure
