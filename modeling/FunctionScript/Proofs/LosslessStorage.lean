import FunctionScript.Proofs.DecimalGrid
import FunctionScript.Proofs.NumeralText

namespace FunctionScript

/-!
# Numbers that are stored without loss

Six decimal places hold a whole number exactly. They move any other number by half a
millionth at most, and from `2 ^ 33` on every other binary64 number is more than a
millionth away, so that the text still reads as the number itself.
-/

-- Powers are those of the core library, whatever else is in scope.
attribute [local instance (high)] instPowNat

open Magnitude (IsNearest unitsPerOne_pos)

variable
  {places : Nat}
  {magnitude other : Magnitude}

namespace Decimal

theorem roundedPlaces_eq_nearest
    (places : Nat)
    (magnitude : Magnitude) :
    roundedPlaces places magnitude =
      nearest .toEven (onGrid magnitude (-places)).1 (onGrid magnitude (-places)).2 := by
  simp [onGrid, roundedPlaces]

/-- A magnitude is read again if it is nearest to what it was rounded to. -/
theorem ofDecimal?_roundedPlaces_of_isNearest
    (nearest :
      IsNearest (roundedPlaces places magnitude * 10 ^ (-places : Int)) magnitude) :
    Magnitude.ofDecimal? (roundedPlaces places magnitude) (-places) = some magnitude := by
  obtain ⟨again, read⟩ := Option.isSome_iff_exists.mp (isSome_roundedPlaces places magnitude)
  exact Magnitude.ofDecimal?_eq_some_iff.mpr
    ⟨(Magnitude.ofDecimal?_eq_some_iff.mp read).1, nearest⟩

/-- A whole number is not moved by rounding it to decimal places. -/
theorem roundedPlaces_of_whole
    {whole : Nat}
    (isWhole : magnitude.value = whole)
    (places : Nat) :
    roundedPlaces places magnitude = whole * 10 ^ places := by
  have units : magnitude.units = whole * unitsPerOne := by
    have inUnits := isWhole
    rw [Magnitude.value, div_eq_iff unitsPerOne_pos.ne'] at inUnits
    exact_mod_cast inUnits
  apply (nearest_toEven_eq_iff Magnitude.zero_lt_unitsPerOne).mpr
  rw [units, Nat.mul_right_comm, Nat.dist_self, Nat.mul_zero]
  exact .inl Magnitude.zero_lt_unitsPerOne

theorem ofDecimal?_roundedPlaces_of_whole
    {whole : Nat}
    (isWhole : magnitude.value = whole)
    (places : Nat) :
    Magnitude.ofDecimal? (roundedPlaces places magnitude) (-places) = some magnitude := by
  have exact : (roundedPlaces places magnitude : ℚ) * 10 ^ (-places : Int) = magnitude.value := by
    rw [roundedPlaces_of_whole isWhole, isWhole, Nat.cast_mul, Nat.cast_pow, Nat.cast_ofNat,
      zpow_neg, zpow_natCast, mul_assoc, mul_inv_cancel₀ (by positivity), mul_one]
  apply ofDecimal?_roundedPlaces_of_isNearest
  rw [exact]
  exact magnitude.isNearest_value

/-- A magnitude more than one unit of the last place from every other one is read again. -/
theorem ofDecimal?_roundedPlaces_of_apart
    (apart :
      ∀ other, other ≠ magnitude →
        (10 : ℚ) ^ (-places : Int) < |other.value - magnitude.value|) :
    Magnitude.ofDecimal? (roundedPlaces places magnitude) (-places) = some magnitude := by
  refine ofDecimal?_roundedPlaces_of_isNearest (Magnitude.isNearest_of_close ?_)
  intro other different
  have halfPlace := two_mul_abs_nearest_onGrid_sub_le .toEven magnitude (-places)
  rw [← roundedPlaces_eq_nearest, abs_sub_comm] at halfPlace
  exact lt_of_le_of_lt halfPlace (apart other different)

end Decimal

namespace Magnitude

theorem natCast_le_value_iff
    (whole : Nat) :
    (whole : ℚ) ≤ magnitude.value ↔ whole * unitsPerOne ≤ magnitude.units := by
  rw [value, le_div_iff₀ unitsPerOne_pos]
  exact_mod_cast Iff.rfl

theorem pow_eq_units :
    2 ^ (1107 : Nat) = 2 ^ (33 : Nat) * unitsPerOne := by
  rw [unitsPerOne, two_pow_eq_mul (show 1107 = 33 + 1074 from rfl)]

theorem pow_le_units
    (large : 2 ^ (33 : Nat) ≤ magnitude.value) :
    2 ^ (1107 : Nat) ≤ magnitude.units := by
  rw [pow_eq_units]
  exact (natCast_le_value_iff (2 ^ (33 : Nat))).mp (by exact_mod_cast large)

theorem natCast_eq_value
    {whole : Nat}
    (inUnits : magnitude.units = whole * unitsPerOne) :
    magnitude.value = whole := by
  rw [value, inUnits, Nat.cast_mul, mul_div_cancel_right₀ _ unitsPerOne_pos.ne']

/-- From `2 ^ 33` on, what is no whole number is `2 ^ -19` from every other magnitude. -/
theorem pow_le_dist_of_large
    (large : 2 ^ (33 : Nat) ≤ magnitude.value)
    (notWhole : ¬∃ whole : Nat, magnitude.value = whole)
    (different : other ≠ magnitude) :
    2 ^ (1055 : Nat) ≤ Nat.dist other.units magnitude.units := by
  obtain ⟨scale, step, fits⟩ := exists_scale_le_dist different
  have unitsLarge := pow_le_units large
  rw [← Nat.pow_add] at fits
  have powers := Nat.le_trans unitsLarge fits
  have scaleLarge := (Nat.pow_le_pow_iff_right (by decide)).mp powers
  rcases Nat.eq_or_lt_of_le scaleLarge with atLeast | above
  · -- The magnitude is the power of two at which the finer grid ends.
    rw [← atLeast] at fits
    have isPower := Nat.le_antisymm fits unitsLarge
    rw [pow_eq_units] at isPower
    exact absurd ⟨_, natCast_eq_value isPower⟩ notWhole
  · have coarser : 1055 ≤ scale := by omega
    have power := (Nat.pow_le_pow_iff_right (a := 2) (by decide)).mpr coarser
    exact Nat.le_trans power step

theorem pow_lt_abs_value_sub_value
    {step places : Nat}
    (enough : unitsPerOne < step * 10 ^ places)
    (apart : step ≤ Nat.dist other.units magnitude.units) :
    (10 : ℚ) ^ (-places : Int) < |other.value - magnitude.value| := by
  have inUnits : unitsPerOne < Nat.dist other.units magnitude.units * 10 ^ places :=
    Nat.lt_of_lt_of_le enough (Nat.mul_le_mul_right _ apart)
  have asRational : (unitsPerOne : ℚ) < Nat.dist other.units magnitude.units * 10 ^ places := by
    exact_mod_cast inUnits
  rw [abs_value_sub_value, zpow_neg, zpow_natCast, lt_div_iff₀ unitsPerOne_pos,
    inv_mul_lt_iff₀ (by positivity), mul_comm]
  exact asRational

/-- The places that are stored are finer than the distances from `2 ^ 33` on. -/
theorem unitsPerOne_lt :
    unitsPerOne < 2 ^ (1055 : Nat) * 10 ^ Numeral.storedPlaces := by
  have positive := Nat.two_pow_pos 1055
  rw [unitsPerOne, two_pow_eq_mul (show 1074 = 1055 + 19 from rfl)]
  generalize 2 ^ (1055 : Nat) = distance at *
  exact Nat.mul_lt_mul_of_pos_left (by decide) positive

end Magnitude

namespace Numeral

/-- A whole number, or one of at least `2 ^ 33`, reads as itself after it was stored. -/
theorem stored_reads_as_itself
    (negative : Bool)
    (exactOrLarge :
      (∃ whole : Nat, magnitude.value = whole) ∨ 2 ^ (33 : Nat) ≤ magnitude.value) :
    read? (stored (.finite negative magnitude)) = some (.finite negative magnitude) := by
  have again :
      Magnitude.ofDecimal? (Decimal.roundedPlaces storedPlaces magnitude) (-storedPlaces) =
        some magnitude := by
    by_cases isWhole : ∃ whole : Nat, magnitude.value = whole
    · obtain ⟨whole, isWhole⟩ := isWhole
      exact Decimal.ofDecimal?_roundedPlaces_of_whole isWhole storedPlaces
    · have large := exactOrLarge.resolve_left isWhole
      refine Decimal.ofDecimal?_roundedPlaces_of_apart fun other different => ?_
      have enough := Magnitude.unitsPerOne_lt
      have apart := Magnitude.pow_le_dist_of_large large isWhole different
      generalize 2 ^ (1055 : Nat) = distance at enough apart
      exact Magnitude.pow_lt_abs_value_sub_value enough apart
  rw [stored, read?_fixed_finite (by decide), again, Option.map_some]

/-- The number after `2 ^ 33`, which has more places than are stored. -/
def nextAfterPower : Magnitude :=
  ⟨1056 * 2 ^ (52 : Nat) + 1, by decide⟩

theorem nextAfterPower_reads_as_itself :
    2 ^ (33 : Nat) ≤ nextAfterPower.value ∧
      stored (.finite true nextAfterPower) = "-8589934592.000002" ∧
      read? (stored (.finite true nextAfterPower)) = some (.finite true nextAfterPower) := by
  have evaluated :
      2 ^ (33 : Nat) * unitsPerOne ≤ nextAfterPower.units ∧
        stored (.finite true nextAfterPower) = "-8589934592.000002" := by
    decide +kernel
  have large : 2 ^ (33 : Nat) ≤ nextAfterPower.value := by
    exact_mod_cast (Magnitude.natCast_le_value_iff _).mpr evaluated.1
  exact ⟨large, evaluated.2, stored_reads_as_itself true (.inr large)⟩

end Numeral

end FunctionScript
