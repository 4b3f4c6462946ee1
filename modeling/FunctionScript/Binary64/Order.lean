import FunctionScript.Binary64.Basic

namespace FunctionScript.Binary64

/-!
# The order of binary64 numbers

The finite magnitudes are numbered in ascending order, so a number has a place
among all numbers: that of its magnitude, on the side of its sign. Both zeros
have the same place, the infinities come next to the largest magnitudes, and
"not a number" has no place, so it is neither less nor greater than anything.
-/

/-- The place on the side of a sign. -/
def signedPlace
    (negative : Bool)
    (place : Nat) :
    Int :=
  if negative then -(place : Int) else place

/-- The place of a number among all numbers in ascending order. -/
def place? :
    Binary64 →
    Option Int
  | nan => none
  | infinity negative => some (signedPlace negative finiteMagnitudes)
  | finite negative magnitude => some (signedPlace negative magnitude.index)

def isLess
    (left right : Binary64) :
    Bool :=
  match left.place?, right.place? with
  | some leftPlace, some rightPlace => decide (leftPlace < rightPlace)
  | _, _ => false

end FunctionScript.Binary64
