import FunctionScript.Binary64.Basic
import FunctionScript.Decimal.Digits
import FunctionScript.Decimal.Quotient

namespace FunctionScript.Magnitude

/-!
# The nearest magnitude

An exact quotient of units is rounded to the nearest magnitude, and of two
equally near ones to the one with an even bit pattern. The quotient is first
divided by the power of two that leaves fifty-three binary digits. A carry out of
the significand needs no care: magnitudes are numbered in ascending order, so it
runs into the exponent by itself.
-/

-- Powers are those of the core library, whatever else is in scope.
attribute [local instance (high)] instPowNat

/-- The power of two by which a quotient is divided to leave at most fifty-three binary digits. -/
def scaleOf
    (numerator denominator : Nat) :
    Nat :=
  (numerator / denominator).log2 - 52

/-- The place of the nearest magnitude, were there no largest one. -/
def nearestIndex
    (numerator denominator : Nat) :
    Nat :=
  let scale := scaleOf numerator denominator
  scale * 2 ^ (52 : Nat) + Decimal.nearest .toEven numerator (denominator * 2 ^ scale)

/-- The magnitude nearest to `numerator / denominator` units, unless that lies beyond the largest. -/
def nearest?
    (numerator denominator : Nat) :
    Option Magnitude :=
  let index := nearestIndex numerator denominator
  if isFinite : index < finiteMagnitudes then
    some ⟨index, isFinite⟩
  else
    none

/-- The magnitude nearest to a whole number. -/
def ofNat?
    (value : Nat) :
    Option Magnitude :=
  nearest? (value * unitsPerOne) 1

/-- The magnitude nearest to `significand * 10 ^ exponent`, computed exactly. -/
def ofScaled?
    (significand : Nat)
    (exponent : Int) :
    Option Magnitude :=
  nearest?
    (significand * 10 ^ exponent.toNat * unitsPerOne)
    (10 ^ (-exponent).toNat)

/--
The magnitude nearest to `significand * 10 ^ exponent`.

A number of `length + exponent` places before the point lies beyond the largest
magnitude if these are more than 310, and rounds to zero if they are fewer than
-330, so that no power of ten grows with the exponent that was written.
-/
def ofDecimal?
    (significand : Nat)
    (exponent : Int) :
    Option Magnitude :=
  let places : Int := Decimal.length significand + exponent
  if significand = 0 then
    some zero
  else if 310 < places then
    none
  else if places < -330 then
    some zero
  else
    ofScaled? significand exponent

end FunctionScript.Magnitude
