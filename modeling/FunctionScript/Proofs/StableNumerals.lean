import FunctionScript.Proofs.ClosestMagnitude
import FunctionScript.Proofs.NumeralText

namespace FunctionScript

/-!
# Texts of numbers that read as themselves

A text with a fixed number of places seldom reads as the number that it was made from.
But the number that it reads as is no further from the text's value than the original
one, and the original one rounds to that value. So it rounds to the same value, and the
text is reproduced however often it is read and rendered again.
-/

-- Powers are those of the core library, whatever else is in scope.
attribute [local instance (high)] instPowNat

namespace Decimal

variable
  {places : Nat}
  {magnitude again : Magnitude}

/-- What a rounded magnitude is read as is not further from it than the magnitude itself. -/
theorem dist_units_of_ofDecimal?
    (read : Magnitude.ofDecimal? (roundedPlaces places magnitude) (-places) = some again) :
    Nat.dist (again.units * 10 ^ places) (roundedPlaces places magnitude * unitsPerOne) ≤
      Nat.dist (magnitude.units * 10 ^ places)
        (roundedPlaces places magnitude * unitsPerOne) := by
  have noZeros : (-(places : Int)).toNat = 0 := by omega
  have samePlaces : (- -(places : Int)).toNat = places := by omega
  rw [Magnitude.ofDecimal?_eq_ofScaled?, Magnitude.ofScaled?, noZeros, samePlaces,
    Nat.pow_zero, Nat.mul_one] at read
  exact Magnitude.dist_units_le (Nat.pow_pos (by decide)) read magnitude

/-- What a rounded magnitude is read as rounds to the same number of the last place. -/
theorem roundedPlaces_of_ofDecimal?
    (read : Magnitude.ofDecimal? (roundedPlaces places magnitude) (-places) = some again) :
    roundedPlaces places again = roundedPlaces places magnitude := by
  have closer := dist_units_of_ofDecimal? read
  rw [Nat.dist_comm, Nat.dist_comm (magnitude.units * 10 ^ places)] at closer
  exact nearest_toEven_eq_of_closer Magnitude.zero_lt_unitsPerOne closer

end Decimal

namespace Numeral

/-- A text with a fixed number of places is numeric, and the number has the same text. -/
theorem exists_read?_fixed
    {places : Nat}
    (positive : 0 < places)
    (number : Binary64) :
    ∃ again, read? (fixed places number) = some again ∧
      fixed places again = fixed places number := by
  cases number with
  | nan => exact ⟨.nan, read?_fixed_nan places, rfl⟩
  | infinity negative => exact ⟨.infinity negative, read?_fixed_infinity places negative, rfl⟩
  | finite negative magnitude =>
      obtain ⟨again, read⟩ :=
        Option.isSome_iff_exists.mp (Decimal.isSome_roundedPlaces places magnitude)
      refine ⟨.finite negative again, ?_, ?_⟩
      · rw [read?_fixed_finite positive, read, Option.map_some]
      · rw [fixed, fixed, Decimal.fixed, Decimal.fixed,
          Decimal.roundedPlaces_of_ofDecimal? read]

/-- Stored and printed texts are numeric, and storing or printing their number reproduces them. -/
theorem rendered_numbers_stable
    (number : Binary64) :
    (∃ again, read? (stored number) = some again ∧ stored again = stored number) ∧
      ∃ again, read? (printed number) = some again ∧ printed again = printed number :=
  ⟨exists_read?_fixed (by decide) number, exists_read?_fixed (by decide) number⟩

end Numeral

end FunctionScript
