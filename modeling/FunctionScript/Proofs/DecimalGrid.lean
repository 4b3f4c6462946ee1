import FunctionScript.Proofs.CorrectRounding
import FunctionScript.Proofs.ShortestDigits

namespace FunctionScript.Decimal

/-!
# Magnitudes among decimal numbers

The multiples of a power of ten are a grid, and a magnitude lies between two
neighbours on it, one step apart. The nearer one is at most half a step away. The
power of ten of a magnitude's first digit bounds it from below, and the next power from
above. A decimal number reads back as a magnitude that is nearest to it, and so does
every decimal number between the two.
-/

-- Powers are those of the core library, whatever else is in scope.
attribute [local instance (high)] instPowNat

open Magnitude (IsNearest overflowValue unitsPerOne_pos)

/-- The rational number that a significand with its exponent stands for. -/
def Scaled.value
    (scaled : Scaled) :
    ℚ :=
  scaled.significand * 10 ^ scaled.exponent

variable
  {magnitude : Magnitude}
  {scaled low high : Scaled}

theorem zpow_ten_pos
    (exponent : Int) :
    (0 : ℚ) < 10 ^ exponent :=
  zpow_pos (by norm_num) exponent

/-- Some places more are a power of ten as a factor. -/
theorem zpow_ten_eq
    (exponent : Int)
    (places : Nat) :
    (10 : ℚ) ^ exponent = 10 ^ places * 10 ^ (exponent - places) := by
  rw [← zpow_natCast, ← zpow_add₀ (by norm_num), add_sub_cancel]

section Quotients

/-- A rounded quotient is at most half a unit away. -/
theorem two_mul_abs_nearest_sub_le
    (tie : Tie)
    (numerator : Nat)
    {denominator : Nat}
    (positive : 0 < denominator) :
    2 * |(nearest tie numerator denominator : ℚ) - numerator / denominator| ≤ 1 := by
  have denominatorPos : (0 : ℚ) < denominator := by exact_mod_cast positive
  obtain ⟨notBelow, notAbove⟩ := nearest_within_half tie numerator positive
  generalize nearest tie numerator denominator = rounded at *
  have notBelow : 2 * (numerator : ℚ) ≤ (2 * rounded + 1) * denominator := by
    exact_mod_cast notBelow
  have notAbove : 2 * (rounded : ℚ) * denominator ≤ 2 * numerator + denominator := by
    exact_mod_cast notAbove
  have halfWay : |(rounded : ℚ) - numerator / denominator| ≤ 1 / 2 := by
    rw [abs_le, neg_le_sub_iff_le_add, sub_le_iff_le_add', div_le_iff₀ denominatorPos,
      ← sub_le_iff_le_add, le_div_iff₀ denominatorPos]
    exact ⟨by linarith, by linarith⟩
  linarith

/-- No whole number is closer to a quotient than the rounded one. -/
theorem abs_nearest_sub_le
    (tie : Tie)
    (numerator : Nat)
    {denominator : Nat}
    (positive : 0 < denominator)
    (other : Nat) :
    |(nearest tie numerator denominator : ℚ) - numerator / denominator| ≤
      |(other : ℚ) - numerator / denominator| := by
  have denominatorPos : (0 : ℚ) < denominator := by exact_mod_cast positive
  have inUnits (value : Nat) :
      |(value : ℚ) - numerator / denominator| =
        Nat.dist (value * denominator) numerator / denominator := by
    rw [Magnitude.cast_dist, Nat.cast_mul, ← abs_of_pos denominatorPos, ← abs_div,
      abs_of_pos denominatorPos, sub_div, mul_div_cancel_right₀ _ denominatorPos.ne']
  rw [inUnits, inUnits]
  exact div_le_div_of_nonneg_right
    (by exact_mod_cast dist_nearest_le tie numerator positive other) denominatorPos.le

end Quotients

section Grid

theorem onGrid_pos
    (magnitude : Magnitude)
    (exponent : Int) :
    0 < (onGrid magnitude exponent).2 :=
  Nat.mul_pos Magnitude.zero_lt_unitsPerOne (Nat.pow_pos (by decide))

/-- On a grid, a magnitude is measured in steps. -/
theorem onGrid_div
    (magnitude : Magnitude)
    (exponent : Int) :
    ((onGrid magnitude exponent).1 : ℚ) / (onGrid magnitude exponent).2 =
      magnitude.value / 10 ^ exponent := by
  have unitsPos := unitsPerOne_pos.ne'
  rw [Magnitude.zpow_eq_div, Magnitude.value, onGrid]
  push_cast
  field_simp

theorem abs_mul_sub_value
    (magnitude : Magnitude)
    (exponent : Int)
    (steps : ℚ) :
    |steps * 10 ^ exponent - magnitude.value| =
      |steps - (onGrid magnitude exponent).1 / (onGrid magnitude exponent).2| *
        10 ^ exponent := by
  have stepPos := zpow_ten_pos exponent
  rw [onGrid_div, ← abs_of_pos stepPos, ← abs_mul, abs_of_pos stepPos, sub_mul,
    div_mul_cancel₀ _ stepPos.ne']

/-- The rounded multiple of a power of ten is at most half a step away. -/
theorem two_mul_abs_nearest_onGrid_sub_le
    (tie : Tie)
    (magnitude : Magnitude)
    (exponent : Int) :
    2 * |(nearest tie (onGrid magnitude exponent).1 (onGrid magnitude exponent).2 : ℚ) *
        10 ^ exponent - magnitude.value| ≤ 10 ^ exponent := by
  have inSteps :=
    two_mul_abs_nearest_sub_le tie (onGrid magnitude exponent).1 (onGrid_pos magnitude exponent)
  rw [abs_mul_sub_value, ← mul_assoc]
  exact mul_le_of_le_one_left (zpow_ten_pos exponent).le inSteps

/-- No multiple of a power of ten is closer than the rounded one. -/
theorem abs_nearest_onGrid_sub_le
    (tie : Tie)
    (magnitude : Magnitude)
    (exponent : Int)
    (steps : Nat) :
    |(Scaled.mk (nearest tie (onGrid magnitude exponent).1 (onGrid magnitude exponent).2)
        exponent).value - magnitude.value| ≤
      |(Scaled.mk steps exponent).value - magnitude.value| := by
  simp only [Scaled.value, abs_mul_sub_value]
  exact mul_le_mul_of_nonneg_right
    (abs_nearest_sub_le tie _ (onGrid_pos magnitude exponent) steps) (zpow_ten_pos exponent).le

/-- The lower neighbour is not above the magnitude. -/
theorem lowerNeighbour_mul_le
    (magnitude : Magnitude)
    (exponent : Int) :
    (lowerNeighbour magnitude exponent : ℚ) * 10 ^ exponent ≤ magnitude.value := by
  have gridPos : (0 : ℚ) < (onGrid magnitude exponent).2 := by
    exact_mod_cast onGrid_pos magnitude exponent
  rw [← le_div_iff₀ (zpow_ten_pos exponent), ← onGrid_div, le_div_iff₀ gridPos]
  exact_mod_cast Nat.div_mul_le_self _ _

/-- The upper neighbour is above the magnitude. -/
theorem lt_upperNeighbour_mul
    (magnitude : Magnitude)
    (exponent : Int) :
    magnitude.value < ((lowerNeighbour magnitude exponent + 1 : Nat) : ℚ) * 10 ^ exponent := by
  have gridPos : (0 : ℚ) < (onGrid magnitude exponent).2 := by
    exact_mod_cast onGrid_pos magnitude exponent
  rw [← div_lt_iff₀ (zpow_ten_pos exponent), ← onGrid_div, div_lt_iff₀ gridPos]
  exact_mod_cast Nat.lt_mul_of_div_lt (Nat.lt_succ_self _) (onGrid_pos magnitude exponent)

end Grid

section Leading

/-- A power of ten that is less than the least positive magnitude is less than all of them. -/
theorem pow_le_value
    {places : Nat}
    (enough : unitsPerOne ≤ 10 ^ places)
    (notZero : magnitude ≠ Magnitude.zero) :
    (10 : ℚ) ^ (-places : Int) ≤ magnitude.value := by
  have unitsPos : 0 < magnitude.units := by
    refine Nat.pos_of_ne_zero fun noUnit => notZero (Magnitude.units_inj ?_)
    rw [noUnit, Magnitude.units_zero]
  have oneUnit : (1 : ℚ) ≤ magnitude.units := by exact_mod_cast unitsPos
  have few : (unitsPerOne : ℚ) ≤ 10 ^ places := by exact_mod_cast enough
  rw [Magnitude.value, zpow_neg, zpow_natCast, inv_eq_one_div]
  exact div_le_div₀ (Nat.cast_nonneg _) oneUnit unitsPerOne_pos few

theorem leadingExponent_eq
    (magnitude : Magnitude) :
    leadingExponent magnitude = length (lowerNeighbour magnitude (-324)) - 325 := by
  have noZeros : (-324 : Int).toNat = 0 := rfl
  have samePlaces : (- -324 : Int).toNat = 324 := rfl
  rw [leadingExponent, lowerNeighbour, onGrid, noZeros, samePlaces, Nat.pow_zero, Nat.mul_one]

/-- The first digit of a positive magnitude is not a zero. -/
theorem lowerNeighbour_pos
    (notZero : magnitude ≠ Magnitude.zero) :
    0 < lowerNeighbour magnitude (-324) := by
  have enough : unitsPerOne ≤ 10 ^ (324 : Nat) := by
    have powers := @Nat.pow_le_pow_right 2 (by decide) 1074 1075 (by decide)
    rw [unitsPerOne]
    exact Nat.le_trans powers (Nat.le_of_lt Magnitude.powers_compare.2.2)
  have least : (10 : ℚ) ^ (-324 : Int) ≤ magnitude.value := @pow_le_value _ 324 enough notZero
  have upper := lt_upperNeighbour_mul magnitude (-324)
  have oneStep := lt_of_le_of_lt least upper
  rw [lt_mul_iff_one_lt_left (zpow_ten_pos _)] at oneStep
  exact Nat.lt_of_succ_lt_succ (by exact_mod_cast oneStep)

/-- A positive magnitude is at least the power of ten of its first digit. -/
theorem pow_leadingExponent_le
    (notZero : magnitude ≠ Magnitude.zero) :
    (10 : ℚ) ^ leadingExponent magnitude ≤ magnitude.value := by
  refine le_trans ?_ (lowerNeighbour_mul_le magnitude (-324))
  have digits := pow_length_le (lowerNeighbour_pos notZero)
  have positive := length_pos (lowerNeighbour magnitude (-324))
  have isPower :
      leadingExponent magnitude =
        ((length (lowerNeighbour magnitude (-324)) - 1 : Nat) : Int) + -324 := by
    rw [leadingExponent_eq]
    omega
  rw [isPower, zpow_add₀ (by norm_num), zpow_natCast]
  exact mul_le_mul_of_nonneg_right (by exact_mod_cast digits) (zpow_ten_pos _).le

/-- A magnitude is below the power of ten before its first digit. -/
theorem lt_pow_leadingExponent
    (magnitude : Magnitude) :
    magnitude.value < (10 : ℚ) ^ (leadingExponent magnitude + 1) := by
  refine lt_of_lt_of_le (lt_upperNeighbour_mul magnitude (-324)) ?_
  have digits := lt_pow_length (lowerNeighbour magnitude (-324))
  have isPower :
      leadingExponent magnitude + 1 =
        (length (lowerNeighbour magnitude (-324)) : Int) + -324 := by
    rw [leadingExponent_eq]
    omega
  rw [isPower, zpow_add₀ (by norm_num), zpow_natCast]
  exact mul_le_mul_of_nonneg_right (by exact_mod_cast digits) (zpow_ten_pos _).le

end Leading

section ReadingBack

/-- A decimal number reads back if the magnitude is nearest to it. -/
theorem readsBack_iff :
    readsBack magnitude scaled ↔
      scaled.value < overflowValue ∧ IsNearest scaled.value magnitude := by
  rw [readsBack, beq_iff_eq, Magnitude.ofDecimal?_eq_some_iff, Scaled.value]

/-- A decimal number in range reads back as the magnitude that is nearest to it. -/
theorem readsBack_of_isNearest
    (inRange : (Magnitude.ofDecimal? scaled.significand scaled.exponent).isSome)
    (nearest : IsNearest scaled.value magnitude) :
    readsBack magnitude scaled := by
  obtain ⟨again, read⟩ := Option.isSome_iff_exists.mp inRange
  exact readsBack_iff.mpr ⟨(Magnitude.ofDecimal?_eq_some_iff.mp read).1, nearest⟩

theorem value_lt_overflowValue
    (magnitude : Magnitude) :
    magnitude.value < overflowValue := by
  have below : magnitude.units < Magnitude.overflowUnits :=
    Nat.lt_of_lt_of_le (Nat.lt_add_of_pos_right Magnitude.zero_lt_halfStep)
      magnitude.units_add_le
  rw [Magnitude.overflowValue_eq]
  exact div_lt_div_of_pos_right (Nat.cast_lt.mpr below) unitsPerOne_pos

/-- What lies between a magnitude and a number above that reads back reads back, too. -/
theorem readsBack_of_le
    (back : readsBack magnitude high)
    (above : magnitude.value ≤ scaled.value)
    (below : scaled.value ≤ high.value) :
    readsBack magnitude scaled := by
  rw [readsBack_iff] at back ⊢
  exact
    ⟨lt_of_le_of_lt below back.1, magnitude.isNearest_value.of_between back.2 above below⟩

/-- What lies between a magnitude and a number below that reads back reads back, too. -/
theorem readsBack_of_ge
    (back : readsBack magnitude low)
    (above : low.value ≤ scaled.value)
    (below : scaled.value ≤ magnitude.value) :
    readsBack magnitude scaled := by
  rw [readsBack_iff] at back ⊢
  exact
    ⟨lt_of_le_of_lt below (value_lt_overflowValue magnitude),
      back.2.of_between magnitude.isNearest_value above below⟩

end ReadingBack

end FunctionScript.Decimal
