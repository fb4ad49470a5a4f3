/-
  The double that a number literal stands for.

  Digits are gathered as long as they fit 64 bits; later ones
  only count as places. The gathered number is rounded to a
  double and then multiplied or divided by a power of ten,
  itself rounded, in steps of at most `10 ^ 308`.

  Whether a literal is too large when it is rounded only
  once is decided on its exact value.

  Key definitions include:
    * `Decimal.Literal`
    * `Decimal.Literal.toFloat`
    * `Decimal.Literal.overflows`
-/

namespace TextAdventure

namespace Decimal

------------------------------------------------------------
-- Literals
------------------------------------------------------------

/-
  The parts of a number literal: its sign, the digits in
  front of and behind the point, and the exponent.
-/
structure Literal where
  negative : Bool
  whole : List Nat
  fraction : List Nat
  exponent : Int

/- The number that a list of digits spells. -/
def numeral (digits : List Nat) : Nat :=
  digits.foldl (fun number digit => 10 * number + digit) 0

/- The digits of a literal that fit 64 bits, and the rest. -/
def gather :
    Nat → List Nat → Nat × List Nat
| number, [] => (number, [])
| number, digit :: rest =>
    if 10 * number + digit < UInt64.size then
      gather (10 * number + digit) rest
    else
      (number, digit :: rest)

------------------------------------------------------------
-- Powers of Ten
------------------------------------------------------------

/- The double nearest to a power of ten. -/
def powerOfTen (exponent : Nat) : Float :=
  Float.ofScientific 1 false exponent

/- Divide by powers of ten, `10 ^ 308` at a time. -/
def divideDown : Nat → Float → Nat → Float
| 0, x, _ => x
| steps + 1, x, exponent =>
    if exponent ≤ 308 then
      x / powerOfTen exponent
    else
      divideDown steps (x / powerOfTen 308) (exponent - 308)

/- Scale by a power of ten; too large a result is infinite. -/
def scale (x : Float) (exponent : Int) : Float :=
  match exponent with
  | .ofNat up =>
      if x == 0.0 then x
      else if up ≤ 308 then x * powerOfTen up
      else x / 0.0
  | .negSucc down => divideDown 4 x (down + 1)

namespace Literal

/- The double that a literal stands for. -/
def toFloat (literal : Literal) : Float :=
  let whole := gather 0 literal.whole
  let fraction := gather whole.1 literal.fraction
  let used := literal.fraction.length - fraction.2.length
  let place :=
    literal.exponent + (whole.2.length : Int) - (used : Int)
  let magnitude := scale (Float.ofNat fraction.1) place
  if literal.negative then -magnitude else magnitude

end Literal

------------------------------------------------------------
-- Exact Size
------------------------------------------------------------

/-
  The least number that rounds to an infinite double. It lies
  halfway between `2 ^ 1024` and the largest finite double.
-/
def overflowBound : Nat :=
  Nat.pow 2 1024 - Nat.pow 2 970

/- The number of digits of that bound. -/
def overflowPlaces : Nat := 309

namespace Literal

/-
  Whether the size of a literal is that bound or more. Only
  where both have as many digits are they compared in full.
-/
def overflows (literal : Literal) : Bool :=
  let digits :=
    (literal.whole ++ literal.fraction).dropWhile (· == 0)
  let lastPlace : Int :=
    literal.exponent - (literal.fraction.length : Int)
  let places : Int := (digits.length : Int) + lastPlace
  if digits.isEmpty || places < overflowPlaces then
    false
  else if overflowPlaces < places then
    true
  else
    overflowBound * Nat.pow 10 (-lastPlace).toNat ≤
      numeral digits * Nat.pow 10 lastPlace.toNat

end Literal

------------------------------------------------------------
-- Examples
------------------------------------------------------------

example :
    (Literal.mk false [1] [5] (-7)).toFloat = 1.5e-7 := by
  decide +kernel

example :
    (Literal.mk false [5] [] (-324)).toFloat = 5e-324 := by
  decide +kernel

example :
    (Literal.mk false [1] [8] 308).overflows = true ∧
      (Literal.mk false [1, 7] [9] 307).overflows =
        false := by
  decide +kernel

end Decimal

end TextAdventure
