import TextAdventure.Decimal.Layout

/-
  Loosely typed values: session flags, custom state and the
  expected side of puzzle conditions.

  Key definitions include:
    * `Value`
    * `Value.isTruthy`
    * `Value.looselyEquals`
    * `Value.display`
-/

namespace TextAdventure

------------------------------------------------------------
-- Values
------------------------------------------------------------

/- A truth value, a number of one of two kinds, or a text. -/
inductive Value where
| boolean (value : Bool)
| integer (value : Int64)
| float (value : Float)
| text (value : String)
deriving DecidableEq

namespace Value

/- What is left out of content counts as true. -/
instance : Inhabited Value := ⟨.boolean true⟩

/- The truth value, if this is one. -/
def asBool? : Value → Option Bool
| .boolean value => some value
| _ => none

/- The text, if this is one. -/
def asText? : Value → Option String
| .text value => some value
| _ => none

/- True, a number other than zero, or a text with content. -/
def isTruthy : Value → Bool
| .boolean value => value
| .integer value => value != 0
| .float value => value != 0.0
| .text value => value != ""

@[simp] theorem isTruthy_boolean (value : Bool) :
    (Value.boolean value).isTruthy = value := rfl

------------------------------------------------------------
-- Comparison
------------------------------------------------------------

/- Values of one kind that are equal; doubles as numbers. -/
def equals : Value → Value → Bool
| .boolean left, .boolean right => left == right
| .integer left, .integer right => left == right
| .float left, .float right => left == right
| .text left, .text right => left == right
| _, _ => false

/- The distance from 1 to the next double. -/
def epsilon : Float := 2.220446049250313e-16

/- An integer and a double less than `epsilon` apart. -/
def nearlyEquals (left : Int64) (right : Float) : Bool :=
  (left.toFloat - right).abs < epsilon

/- Equality that does not tell the two kinds of number apart. -/
def looselyEquals : Value → Value → Bool
| .integer left, .float right => nearlyEquals left right
| .float left, .integer right => nearlyEquals right left
| left, right => left.equals right

------------------------------------------------------------
-- Display
------------------------------------------------------------

/- The text shown for a value. -/
def display : Value → String
| .boolean value => if value then "true" else "false"
| .integer value => toString value.toInt
| .float value => Decimal.plain value
| .text value => value

end Value

end TextAdventure
