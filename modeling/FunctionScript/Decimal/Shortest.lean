import FunctionScript.Binary64.Nearest

namespace FunctionScript.Decimal

/-!
# The shortest digits that read back

Among all decimal numbers that round to a magnitude there are some with the
fewest digits, and of those one lies nearest. For one digit, two digits, and so
on, the magnitude's two neighbours on the grid of that many digits are read back;
the first grid with a neighbour that comes back settles the digits. Seventeen
digits always suffice.
-/

-- Powers are those of the core library, whatever else is in scope.
attribute [local instance (high)] instPowNat

structure Scaled where
  significand : Nat
  exponent : Int
  deriving DecidableEq, Repr

/-- The power of ten of the first digit. -/
def Scaled.leadingExponent
    (scaled : Scaled) :
    Int :=
  scaled.exponent + length scaled.significand - 1

/-- The power of ten of a positive magnitude's first digit. -/
def leadingExponent
    (magnitude : Magnitude) :
    Int :=
  (length (magnitude.units * 10 ^ (324 : Nat) / unitsPerOne) : Int) - 325

/-- The magnitude, over a denominator, in multiples of `10 ^ exponent`. -/
def onGrid
    (magnitude : Magnitude)
    (exponent : Int) :
    Nat × Nat :=
  (magnitude.units * 10 ^ (-exponent).toNat, unitsPerOne * 10 ^ exponent.toNat)

def readsBack
    (magnitude : Magnitude)
    (scaled : Scaled) :
    Bool :=
  Magnitude.ofDecimal? scaled.significand scaled.exponent == some magnitude

/-- The neighbour on the grid of `10 ^ exponent` that reads back, the nearer one if both do. -/
def onGrid?
    (tie : Tie)
    (magnitude : Magnitude)
    (exponent : Int) :
    Option Scaled :=
  let (numerator, denominator) := onGrid magnitude exponent
  let lower : Scaled := ⟨numerator / denominator, exponent⟩
  let upper : Scaled := ⟨numerator / denominator + 1, exponent⟩
  match readsBack magnitude lower, readsBack magnitude upper with
  | true, true => some ⟨nearest tie numerator denominator, exponent⟩
  | true, false => some lower
  | false, true => some upper
  | false, false => none

def seventeenDigits
    (tie : Tie)
    (magnitude : Magnitude) :
    Scaled :=
  let exponent := leadingExponent magnitude - 16
  let (numerator, denominator) := onGrid magnitude exponent
  ⟨nearest tie numerator denominator, exponent⟩

/-- The shortest decimal number that reads back as the magnitude. -/
def shortest
    (tie : Tie)
    (magnitude : Magnitude) :
    Scaled :=
  if magnitude = Magnitude.zero then
    ⟨0, 0⟩
  else
    let leading := leadingExponent magnitude
    let grids := (List.range 17).map fun (more : Nat) => leading - more
    (grids.findSome? (onGrid? tie magnitude)).getD (seventeenDigits tie magnitude)

end FunctionScript.Decimal
