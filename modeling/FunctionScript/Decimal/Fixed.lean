import FunctionScript.Binary64.Basic
import FunctionScript.Decimal.Digits
import FunctionScript.Decimal.Quotient

namespace FunctionScript.Decimal

/-!
# A fixed number of decimal places

The exact value is rounded to a whole number of the last place, a tie going to
the even one, and every digit is written. A minus sign is kept even if all digits
are zero.
-/

-- Powers are those of the core library, whatever else is in scope.
attribute [local instance (high)] instPowNat

/-- A magnitude as a whole number of units of the last of `places` decimal places. -/
def roundedPlaces
    (places : Nat)
    (magnitude : Magnitude) :
    Nat :=
  nearest .toEven (magnitude.units * 10 ^ places) unitsPerOne

/-- A whole number of units of the last of `places` places, with its point. -/
def pointed
    (places value : Nat) :
    List Char :=
  natText (value / 10 ^ places) ++
    '.' :: (lastDigits places value).map digitChar

def signText
    (negative : Bool) :
    List Char :=
  if negative then ['-'] else []

/-- A finite number with exactly `places` decimal places. -/
def fixed
    (places : Nat)
    (negative : Bool)
    (magnitude : Magnitude) :
    List Char :=
  signText negative ++ pointed places (roundedPlaces places magnitude)

end FunctionScript.Decimal
