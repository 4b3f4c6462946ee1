import FunctionScript.Binary64.Nearest

namespace FunctionScript.Binary64

/-!
# Arithmetic on binary64 numbers

Each operation takes the exact result and rounds it once. What is left are the
cases without an exact result: "not a number" spreads, infinities absorb finite
numbers, and the sign of a zero follows the operands' signs.
-/

/-- The number of units of a signed magnitude. -/
def signedUnits
    (negative : Bool)
    (magnitude : Magnitude) :
    Int :=
  if negative then -(magnitude.units : Int) else magnitude.units

def negate :
    Binary64 →
    Binary64
  | nan => nan
  | infinity negative => infinity (!negative)
  | finite negative magnitude => finite (!negative) magnitude

/-- The sum of two finite numbers; a sum of zero is negative only if both operands are. -/
def addFinite
    (leftNegative : Bool)
    (left : Magnitude)
    (rightNegative : Bool)
    (right : Magnitude) :
    Binary64 :=
  let sum := signedUnits leftNegative left + signedUnits rightNegative right
  if sum = 0 then
    zero (leftNegative && rightNegative)
  else
    ofMagnitude? (decide (sum < 0)) (Magnitude.nearest? sum.natAbs 1)

def add :
    Binary64 →
    Binary64 →
    Binary64
  | nan, _ => nan
  | _, nan => nan
  | infinity left, infinity right => if left = right then infinity left else nan
  | infinity left, finite _ _ => infinity left
  | finite _ _, infinity right => infinity right
  | finite leftNegative left, finite rightNegative right =>
      addFinite leftNegative left rightNegative right

def sub
    (left right : Binary64) :
    Binary64 :=
  left.add right.negate

def mul :
    Binary64 →
    Binary64 →
    Binary64
  | nan, _ => nan
  | _, nan => nan
  | infinity left, infinity right => infinity (left != right)
  | infinity left, finite right magnitude =>
      if magnitude.units = 0 then nan else infinity (left != right)
  | finite left magnitude, infinity right =>
      if magnitude.units = 0 then nan else infinity (left != right)
  | finite left leftMagnitude, finite right rightMagnitude =>
      ofMagnitude? (left != right)
        (Magnitude.nearest? (leftMagnitude.units * rightMagnitude.units) unitsPerOne)

/-- The quotient; dividing by zero gives an infinity, or "not a number" for zero by zero. -/
def div :
    Binary64 →
    Binary64 →
    Binary64
  | nan, _ => nan
  | _, nan => nan
  | infinity _, infinity _ => nan
  | infinity left, finite right _ => infinity (left != right)
  | finite left _, infinity right => zero (left != right)
  | finite left leftMagnitude, finite right rightMagnitude =>
      if rightMagnitude.units = 0 then
        if leftMagnitude.units = 0 then nan else infinity (left != right)
      else
        ofMagnitude? (left != right)
          (Magnitude.nearest? (leftMagnitude.units * unitsPerOne) rightMagnitude.units)

/-- The number nearest to an integer. -/
def ofInt
    (value : Int) :
    Binary64 :=
  ofMagnitude? (decide (value < 0)) (Magnitude.ofNat? value.natAbs)

end FunctionScript.Binary64
