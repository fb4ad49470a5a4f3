/-
  The shortest decimal that reads back as a given double.

  A finite double is `significand * 2 ^ exponent`, and the
  reals that round to it form an interval, with its ends
  exactly when the significand is even. Among the decimals
  in that interval with the fewest digits, the one nearest
  to the double is its shortest decimal.

  Key definitions include:
    * `Decimal.Binary.ofFloat`
    * `Decimal.Binary.shortest`
-/

namespace TextAdventure

namespace Decimal

------------------------------------------------------------
-- Binary Values
------------------------------------------------------------

/- The number `significand * 2 ^ exponent`. -/
structure Binary where
  significand : Nat
  exponent : Int
deriving DecidableEq

/- The leading bit of a normal double, 2 to the power 52. -/
def hiddenBit : Nat := 4503599627370496

/- The magnitude of a finite double. -/
def Binary.ofFloat (x : Float) : Binary :=
  let bits := x.toBits.toNat
  let fraction := bits % hiddenBit
  let biased : Nat := bits / hiddenBit % 2048
  if biased = 0 then
    { significand := fraction, exponent := -1074 }
  else
    { significand := hiddenBit + fraction
      exponent := Int.ofNat biased - 1075 }

/- Whether the sign bit of a double is set. -/
def isNegative (x : Float) : Bool :=
  x.toBits.toNat / (2048 * hiddenBit) == 1

------------------------------------------------------------
-- Decimal Grids
------------------------------------------------------------

/-
  What a tie between two nearest decimals does: go to the
  larger one, or to the one with an even last digit.
-/
inductive Tie where
| up
| even
deriving DecidableEq

/- The number `digits * 10 ^ exponent`. -/
structure Scaled where
  digits : Nat
  exponent : Int
deriving DecidableEq

namespace Binary

/-
  A common unit for quarters of a binary value's last place
  and multiples of `10 ^ place`: the first factor turns such
  quarters into it, the second turns such multiples.
-/
def unitFactors (value : Binary) (place : Int) : Nat × Nat :=
  let quarter := value.exponent - 2
  (Nat.pow 2 quarter.toNat * Nat.pow 10 (-place).toNat,
    Nat.pow 10 place.toNat * Nat.pow 2 (-quarter).toNat)

/- Whether a decimal on a grid rounds to the binary value. -/
def roundsTo
    (value : Binary)
    (place : Int)
    (digits : Nat) : Bool :=
  let factors := value.unitFactors place
  let below :=
    if value.significand = hiddenBit ∧ value.exponent ≠ -1074
    then 1 else 2
  let low := (4 * value.significand - below) * factors.1
  let high := (4 * value.significand + 2) * factors.1
  let point := digits * factors.2
  if value.significand % 2 = 0 then
    low ≤ point && point ≤ high
  else
    low < point && point < high

/- The nearest grid point that rounds to the value, if any. -/
def onGrid?
    (tie : Tie)
    (value : Binary)
    (place : Int) : Option Scaled :=
  let factors := value.unitFactors place
  let exact := 4 * value.significand * factors.1
  let lower := exact / factors.2
  let upper := lower + 1
  let toLower := exact - lower * factors.2
  let toUpper := upper * factors.2 - exact
  let lowerFits := value.roundsTo place lower
  let upperFits := value.roundsTo place upper
  let preferUpper :=
    toUpper < toLower ||
      (toUpper == toLower &&
        (tie == .up || lower % 2 == 1))
  if upperFits && (!lowerFits || preferUpper) then
    some ⟨upper, place⟩
  else if lowerFits then
    some ⟨lower, place⟩
  else
    none

/-
  The number of digits in front of the decimal point, or
  minus the number of zeros behind it.
-/
def magnitude (value : Binary) : Int :=
  let guess :=
    ((Nat.log2 value.significand : Int) + value.exponent) *
      30103 / 100000
  let fits (place : Int) : Bool :=
    let factors := value.unitFactors place
    4 * value.significand * factors.1 < factors.2
  ([guess - 1, guess, guess + 1, guess + 2].find? fits).getD
    (guess + 3)

/- A decimal without a zero at the end of its digits. -/
def withoutLastZero (decimal : Scaled) : Scaled :=
  if decimal.digits % 10 = 0 then
    ⟨decimal.digits / 10, decimal.exponent + 1⟩
  else
    decimal

/-
  The shortest decimal of a positive binary value. Seventeen
  digits always suffice. A single nine may have been rounded
  up to ten.
-/
def shortest (tie : Tie) (value : Binary) : Scaled :=
  let top := value.magnitude
  let grids :=
    (List.range 17).map
      (fun count => top - Int.ofNat count - 1)
  withoutLastZero
    ((grids.findSome? (value.onGrid? tie)).getD ⟨0, 0⟩)

end Binary

------------------------------------------------------------
-- Examples
------------------------------------------------------------

example :
    (Binary.ofFloat 0.1).shortest .even = ⟨1, -1⟩ := by
  decide +kernel

example :
    (Binary.ofFloat 5e-324).shortest .even = ⟨5, -324⟩ := by
  decide +kernel

example :
    (Binary.ofFloat 1e-323).shortest .even = ⟨1, -323⟩ := by
  decide +kernel

example :
    (Binary.ofFloat 1125899906842624.25).shortest .up =
      ⟨11258999068426243, -1⟩ := by
  decide +kernel

end Decimal

end TextAdventure
