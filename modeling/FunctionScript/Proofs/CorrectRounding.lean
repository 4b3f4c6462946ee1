import Mathlib.Algebra.Order.Field.Basic
import Mathlib.Algebra.Order.Field.Power
import Mathlib.Tactic.FieldSimp
import Mathlib.Tactic.Linarith
import Mathlib.Tactic.Ring
import FunctionScript.Proofs.ClosestMagnitude

namespace FunctionScript

/-!
# Correct rounding

Magnitudes ascend with their places, and each is a rational number. A quotient is
rounded to the magnitude that is closer to its exact value than every other one, or as
close and of even place, and there is only one such magnitude. It exists below the
middle between the largest magnitude and the power of two after it. What is rounded to
one magnitude is an interval, and whatever lies closer to a magnitude than half the way
to every other one is inside.
-/

-- Powers are those of the core library, whatever else is in scope.
attribute [local instance (high)] instPowNat

namespace Magnitude

section Places

variable {lower upper magnitude other : Magnitude}

theorem eq_of_index_eq
    (same : magnitude.index = other.index) :
    magnitude = other := by
  cases magnitude
  cases other
  cases same
  rfl

theorem index_eq
    (magnitude : Magnitude) :
    magnitude.index = magnitude.scale * 2 ^ (52 : Nat) + magnitude.significand := by
  rw [scale, significand]
  split <;> omega

theorem normal_or_unscaled
    (magnitude : Magnitude) :
    magnitude.scale = 0 ∨ 2 ^ (52 : Nat) ≤ magnitude.significand := by
  rw [scale, significand]
  split <;> omega

/-- From a magnitude to the next one it is one unit of its last binary digit. -/
theorem units_next
    (next : upper.index = lower.index + 1) :
    upper.units = lower.units + 2 ^ lower.scale := by
  have isIndex := lower.index_eq
  have fewDigits := lower.significand_lt
  have normal := lower.normal_or_unscaled
  have upperUnits : upper.units = (lower.significand + 1) * 2 ^ lower.scale :=
    units_eq (by omega) (by omega) (by omega)
  rw [upperUnits, units, Nat.add_mul, Nat.one_mul]

theorem units_add_step_le
    (below : lower.index < upper.index) :
    lower.units + 2 ^ lower.scale ≤ upper.units := by
  obtain ⟨steps, isIndex⟩ := Nat.exists_eq_add_of_lt below
  induction steps generalizing upper with
  | zero => exact Nat.le_of_eq (units_next isIndex).symm
  | succ steps inductionHypothesis =>
      have inRange := upper.isFinite
      let between : Magnitude := ⟨lower.index + steps + 1, by omega⟩
      have untilBetween : lower.units + 2 ^ lower.scale ≤ between.units :=
        inductionHypothesis (Nat.lt_add_of_pos_right (Nat.succ_pos steps)) rfl
      have step : upper.units = between.units + 2 ^ between.scale := units_next isIndex
      rw [step]
      exact Nat.le_add_right_of_le untilBetween

/--
Every other magnitude is at least one unit of a scale away, on which the magnitude has
no more than fifty-three binary digits.
-/
theorem exists_scale_le_dist
    (different : other ≠ magnitude) :
    ∃ scale,
      2 ^ scale ≤ Nat.dist other.units magnitude.units ∧
        magnitude.units ≤ 2 ^ (53 : Nat) * 2 ^ scale := by
  have fits (place : Magnitude) :
      place.units + 2 ^ place.scale ≤ 2 ^ (53 : Nat) * 2 ^ place.scale := by
    rw [units, ← Nat.succ_mul]
    exact Nat.mul_le_mul_right _ place.significand_lt
  rcases Nat.lt_trichotomy other.index magnitude.index with below | same | above
  · have inRange := magnitude.isFinite
    let before : Magnitude := ⟨magnitude.index - 1, by omega⟩
    have step : magnitude.units = before.units + 2 ^ before.scale :=
      units_next (by simp [before]; omega)
    have notAbove : other.units ≤ before.units := by
      rcases Nat.eq_or_lt_of_le (Nat.le_sub_one_of_lt below) with isBefore | further
      · have same : other = before := eq_of_index_eq isBefore
        rw [same]
      · have room : other.units + 2 ^ other.scale ≤ before.units := units_add_step_le further
        exact Nat.le_of_add_right_le room
    refine ⟨before.scale, ?_, ?_⟩
    · rw [Nat.dist_eq_sub_of_le (Nat.le_trans notAbove (step ▸ Nat.le_add_right _ _)), step]
      omega
    · rw [step]
      exact fits before
  · exact absurd (eq_of_index_eq same) different
  · have step := units_add_step_le above
    refine ⟨magnitude.scale, ?_, Nat.le_of_add_right_le (fits magnitude)⟩
    rw [Nat.dist_eq_sub_of_le_right (Nat.le_of_add_right_le step)]
    omega

theorem units_inj
    (same : magnitude.units = other.units) :
    magnitude = other := by
  rcases Nat.lt_trichotomy magnitude.index other.index with below | isSame | above
  · have step := units_add_step_le below
    have positive : 0 < 2 ^ magnitude.scale := Nat.pow_pos (by decide)
    omega
  · exact eq_of_index_eq isSame
  · have step := units_add_step_le above
    have positive : 0 < 2 ^ other.scale := Nat.pow_pos (by decide)
    omega

end Places

section Nearest

variable
  {numerator denominator : Nat}
  {magnitude : Magnitude}

/-- Of two magnitudes as close to a quotient, the nearest one has the even place. -/
theorem even_of_dist_eq
    (positive : 0 < denominator)
    (found : nearest? numerator denominator = some magnitude)
    {other : Magnitude}
    (different : other ≠ magnitude)
    (tie :
      Nat.dist (magnitude.units * denominator) numerator =
        Nat.dist (other.units * denominator) numerator) :
    magnitude.index % 2 = 0 := by
  have isIndex := index_of_nearest? found
  have isUnits := units_of_nearest? positive found
  have scaled := @scaled_le_of_scaleOf_pos numerator denominator
  rw [nearestIndex] at isIndex
  generalize scaleOf numerator denominator = scale at *
  have gridPositive : 0 < denominator * 2 ^ scale :=
    Nat.mul_pos positive (Nat.pow_pos (by decide))
  have onGrid (digits : Nat) :
      digits * 2 ^ scale * denominator = digits * (denominator * 2 ^ scale) := by
    rw [Nat.mul_assoc, Nat.mul_comm denominator]
  have closest := Decimal.dist_nearest_le .toEven numerator gridPositive
  have evenOfTie := @Decimal.nearest_toEven_even_of_tie numerator _ gridPositive
  generalize Decimal.nearest .toEven numerator (denominator * 2 ^ scale) = digits at *
  rw [isUnits, onGrid] at tie
  have tieOnGrid
      (others : Nat)
      (otherUnits : other.units = others * 2 ^ scale) :
      magnitude.index % 2 = 0 := by
    have digitsDiffer : others ≠ digits := by
      rintro rfl
      exact different (units_inj (otherUnits.trans isUnits.symm))
    rw [otherUnits, onGrid] at tie
    have even := evenOfTie digitsDiffer tie
    omega
  rcases other.units_on_grid_or_below scale with ⟨others, otherUnits⟩ | ⟨isScaled, below⟩
  · exact tieOnGrid others otherUnits
  · rcases Nat.eq_or_lt_of_le below with isLeast | less
    · exact tieOnGrid _ isLeast
    · -- The least number with fifty-three digits on the grid is closer than what is below.
      have leastBelow := scaled isScaled
      have otherBelow := Nat.mul_lt_mul_of_pos_right less positive
      rw [onGrid] at otherBelow
      have leastCloser := closest (2 ^ (52 : Nat))
      rw [tie, Nat.dist_eq_sub_of_le (Nat.le_of_lt (Nat.lt_of_lt_of_le otherBelow leastBelow)),
        Nat.dist_eq_sub_of_le leastBelow] at leastCloser
      omega

/-- At the greatest scale, what does not lie below the middle is rounded up to the power of two. -/
theorem le_nearest_of_not_below
    (positive : 0 < denominator)
    (notBelow : overflowUnits * denominator ≤ numerator) :
    2 ^ (53 : Nat) ≤
      Decimal.nearest .toEven numerator (denominator * 2 ^ (2045 : Nat)) := by
  rw [overflowUnits, Nat.mul_assoc] at notBelow
  rw [two_pow_greatestScale, Nat.mul_left_comm, Nat.mul_comm denominator]
  have halfPositive : 0 < halfStep * denominator := Nat.mul_pos zero_lt_halfStep positive
  generalize halfStep * denominator = half at *
  have rounded :=
    (@Decimal.nearest_toEven_eq_iff numerator (2 * half) _ (by omega)).mp rfl
  generalize Decimal.nearest .toEven numerator (2 * half) = digits at *
  by_contra few
  have most := Nat.mul_le_mul_right half (Nat.le_sub_one_of_lt (Nat.lt_of_not_le few))
  have asHalves : digits * (2 * half) = 2 * (digits * half) := Nat.mul_left_comm _ _ _
  rw [asHalves, Nat.dist_eq_sub_of_le (by omega)] at rounded
  rcases rounded with closer | ⟨halfWay, even⟩
  · omega
  · -- Half a step away is the greatest number with fifty-three digits only, which is odd.
    have isGreatest : digits * half = (2 ^ (53 : Nat) - 1) * half := by omega
    have := Nat.eq_of_mul_eq_mul_right halfPositive isGreatest
    omega

theorem pow_le_overflowUnits :
    2 ^ (2097 : Nat) ≤ overflowUnits := by
  have inHalfSteps : 2 ^ (2097 : Nat) = 2 ^ (53 : Nat) * halfStep := by
    rw [halfStep, two_pow_eq_mul (show 2097 = 53 + 2044 from rfl)]
  rw [inHalfSteps, overflowUnits]
  exact Nat.mul_le_mul_right halfStep (by decide)

/-- Between the middle and the power of two, the scale is the greatest one. -/
theorem scaleOf_eq_greatest
    (positive : 0 < denominator)
    (notBelow : overflowUnits * denominator ≤ numerator)
    (below : numerator < 2 ^ (54 : Nat) * halfStep * denominator) :
    scaleOf numerator denominator = 2045 := by
  have atLeast :=
    Nat.le_trans pow_le_overflowUnits ((Nat.le_div_iff_mul_le positive).mpr notBelow)
  have lessThan : numerator / denominator < 2 ^ (54 : Nat) * halfStep :=
    Nat.div_lt_of_lt_mul (Nat.mul_comm _ denominator ▸ below)
  rw [← two_pow_eq_halfStep] at lessThan
  have notZero : numerator / denominator ≠ 0 :=
    Nat.ne_of_gt (Nat.lt_of_lt_of_le (Nat.pow_pos (by decide)) atLeast)
  have digits := (Nat.le_log2 notZero).mpr atLeast
  have noMore := (Nat.log2_lt notZero).mpr lessThan
  rw [scaleOf]
  omega

/-- Quotients of units from the middle on have no nearest magnitude. -/
theorem nearest?_of_not_below
    (positive : 0 < denominator)
    (notBelow : overflowUnits * denominator ≤ numerator) :
    nearest? numerator denominator = none := by
  rcases Nat.lt_or_ge numerator (2 ^ (54 : Nat) * halfStep * denominator) with less | large
  · have isGreatest := scaleOf_eq_greatest positive notBelow less
    have rounded := le_nearest_of_not_below positive notBelow
    rw [← isGreatest] at rounded
    have beyond : ¬nearestIndex numerator denominator < finiteMagnitudes := by
      simp only [nearestIndex, finiteMagnitudes]
      generalize
        Decimal.nearest .toEven numerator
          (denominator * 2 ^ scaleOf numerator denominator) = place at *
      omega
    simp [nearest?, beyond]
  · exact nearest?_of_large positive large

end Nearest

section Values

/-- A magnitude as a rational number. -/
def value
    (magnitude : Magnitude) :
    ℚ :=
  magnitude.units / unitsPerOne

/-- The middle between the largest magnitude and the power of two after it. -/
def overflowValue : ℚ :=
  2 ^ (1024 : Nat) - 2 ^ (970 : Nat)

/-- A magnitude closer to the exact value than any other, or as close and of even place. -/
def IsNearest
    (exact : ℚ)
    (magnitude : Magnitude) :
    Prop :=
  ∀ other, other ≠ magnitude →
    |magnitude.value - exact| < |other.value - exact| ∨
      |magnitude.value - exact| = |other.value - exact| ∧ magnitude.index % 2 = 0

variable
  {magnitude other : Magnitude}
  {exact : ℚ}

theorem unitsPerOne_pos :
    (0 : ℚ) < unitsPerOne :=
  Nat.cast_pos.mpr zero_lt_unitsPerOne

theorem cast_dist
    (left right : Nat) :
    (Nat.dist left right : ℚ) = |(left : ℚ) - right| := by
  rcases Nat.le_total left right with le | le
  · have nonpos : (left : ℚ) - right ≤ 0 := sub_nonpos.mpr (by exact_mod_cast le)
    rw [Nat.dist_eq_sub_of_le le, Nat.cast_sub le, abs_of_nonpos nonpos, neg_sub]
  · have nonneg : (0 : ℚ) ≤ left - right := sub_nonneg.mpr (by exact_mod_cast le)
    rw [Nat.dist_eq_sub_of_le_right le, Nat.cast_sub le, abs_of_nonneg nonneg]

theorem units_zero :
    zero.units = 0 := by
  rw [units, show zero.significand = 0 from rfl, Nat.zero_mul]

theorem value_zero :
    zero.value = 0 := by
  rw [value, units_zero, Nat.cast_zero, zero_div]

theorem value_lt_of_index_lt
    (below : magnitude.index < other.index) :
    magnitude.value < other.value := by
  have positive : 0 < 2 ^ magnitude.scale := Nat.pow_pos (by decide)
  have unitsLt : magnitude.units < other.units :=
    Nat.lt_of_lt_of_le (Nat.lt_add_of_pos_right positive) (units_add_step_le below)
  exact div_lt_div_of_pos_right (by exact_mod_cast unitsLt) unitsPerOne_pos

theorem abs_value_sub_value
    (magnitude other : Magnitude) :
    |other.value - magnitude.value| =
      Nat.dist other.units magnitude.units / unitsPerOne := by
  rw [value, value, ← sub_div, abs_div, abs_of_pos unitsPerOne_pos, cast_dist]

/-- Between two numbers that are as close to a third there are only closer ones. -/
theorem abs_sub_lt_of_between
    {low middle high : ℚ}
    (above : low < middle)
    (below : middle < high)
    (tie : |low - exact| = |high - exact|) :
    |middle - exact| < |low - exact| := by
  have lowBelow : low - exact = -(high - exact) := by
    rcases abs_eq_abs.mp tie with same | opposite
    · linarith
    · exact opposite
  have highAbove : 0 < high - exact := by linarith
  rw [tie, abs_of_pos highAbove, abs_lt]
  exact ⟨by linarith, by linarith⟩

theorem IsNearest.le
    (nearest : IsNearest exact magnitude)
    (other : Magnitude) :
    |magnitude.value - exact| ≤ |other.value - exact| := by
  by_cases same : other = magnitude
  · rw [same]
  · rcases nearest other same with closer | ⟨asClose, _⟩
    · exact closer.le
    · exact asClose.le

theorem IsNearest.not_index_lt
    (nearest : IsNearest exact magnitude)
    (otherNearest : IsNearest exact other) :
    ¬magnitude.index < other.index := by
  intro below
  have different : other ≠ magnitude := fun same => absurd below (by simp [same])
  have tie := le_antisymm (nearest.le other) (otherNearest.le magnitude)
  have even : magnitude.index % 2 = 0 :=
    ((nearest other different).resolve_left tie.not_lt).2
  have otherEven : other.index % 2 = 0 :=
    ((otherNearest magnitude different.symm).resolve_left tie.not_gt).2
  -- Two even places are not next to each other.
  have inRange := other.isFinite
  let between : Magnitude := ⟨magnitude.index + 1, by omega⟩
  have above : magnitude.value < between.value := value_lt_of_index_lt (Nat.lt_succ_self _)
  have beforeOther : between.index < other.index := by
    simp only [between]
    omega
  have closer := abs_sub_lt_of_between above (value_lt_of_index_lt beforeOther) tie
  exact absurd (nearest.le between) closer.not_ge

/-- Only one magnitude is nearest: between two of even place there is a closer one. -/
theorem IsNearest.unique
    (nearest : IsNearest exact magnitude)
    (otherNearest : IsNearest exact other) :
    magnitude = other :=
  eq_of_index_eq <|
    Nat.le_antisymm
      (Nat.le_of_not_lt (otherNearest.not_index_lt nearest))
      (Nat.le_of_not_lt (nearest.not_index_lt otherNearest))

/-- A magnitude is nearest to what is closer to it than half the way to every other one. -/
theorem isNearest_of_close
    (close :
      ∀ other, other ≠ magnitude →
        2 * |magnitude.value - exact| < |other.value - magnitude.value|) :
    IsNearest exact magnitude := by
  intro other different
  have triangle := abs_sub_le other.value exact magnitude.value
  rw [abs_sub_comm exact] at triangle
  have closer := close other different
  exact .inl (by linarith)

/-- The distance to any other magnitude is no less than fifty-three binary digits tell apart. -/
theorem value_le_mul_abs_sub
    (different : other ≠ magnitude) :
    magnitude.value ≤ 2 ^ (53 : Nat) * |other.value - magnitude.value| := by
  obtain ⟨scale, step, fits⟩ := exists_scale_le_dist different
  have inUnits := Nat.le_trans fits (Nat.mul_le_mul_left (2 ^ (53 : Nat)) step)
  rw [abs_value_sub_value, value, ← mul_div_assoc]
  exact div_le_div_of_nonneg_right (by exact_mod_cast inUnits) unitsPerOne_pos.le

theorem value_inj
    (same : magnitude.value = other.value) :
    magnitude = other := by
  rcases Nat.lt_trichotomy magnitude.index other.index with below | isSame | above
  · exact absurd same (value_lt_of_index_lt below).ne
  · exact eq_of_index_eq isSame
  · exact absurd same (value_lt_of_index_lt above).ne'

/-- A magnitude is nearest to itself. -/
theorem isNearest_value
    (magnitude : Magnitude) :
    IsNearest magnitude.value magnitude := by
  refine isNearest_of_close fun other different => ?_
  have apart : other.value - magnitude.value ≠ 0 :=
    sub_ne_zero.mpr fun same => different (value_inj same)
  simpa using apart

section Interval

variable {left right low high : ℚ}

/-- Which of two numbers is closer depends on the side of their middle. -/
theorem abs_sub_lt_iff :
    |left - exact| < |right - exact| ↔ 0 < (right - left) * (left + right - 2 * exact) := by
  rw [← sq_lt_sq, ← sub_pos]
  ring_nf

theorem abs_sub_eq_iff
    (different : left ≠ right) :
    |left - exact| = |right - exact| ↔ 2 * exact = left + right := by
  rw [abs_eq_abs]
  constructor
  · rintro (same | opposite)
    · exact absurd (sub_left_injective same) different
    · linarith
  · intro middle
    exact .inr (by linarith)

/-- What lies between two numbers that are rounded to a magnitude is rounded to it, too. -/
theorem IsNearest.of_between
    (lowNearest : IsNearest low magnitude)
    (highNearest : IsNearest high magnitude)
    (above : low ≤ exact)
    (below : exact ≤ high) :
    IsNearest exact magnitude := by
  intro other different
  have valuesDiffer : magnitude.value ≠ other.value := fun same =>
    different (value_inj same.symm)
  have fromLow := lowNearest other different
  have fromHigh := highNearest other different
  rw [abs_sub_lt_iff, abs_sub_eq_iff valuesDiffer] at fromLow fromHigh ⊢
  rcases valuesDiffer.lt_or_gt with less | greater
  · rw [mul_pos_iff_of_pos_left (sub_pos.mpr less)] at fromHigh ⊢
    rcases fromHigh with closer | ⟨middle, even⟩
    · exact .inl (by linarith)
    · rcases below.lt_or_eq with inside | rfl
      · exact .inl (by linarith)
      · exact .inr ⟨middle, even⟩
  · have otherBelow : other.value - magnitude.value < 0 := sub_neg.mpr greater
    rcases fromLow with closer | ⟨middle, even⟩
    · have beyond := neg_of_mul_pos_right closer otherBelow.le
      exact .inl (mul_pos_of_neg_of_neg otherBelow (by linarith))
    · rcases above.lt_or_eq with inside | rfl
      · exact .inl (mul_pos_of_neg_of_neg otherBelow (by linarith))
      · exact .inr ⟨middle, even⟩

end Interval

end Values

section Quotients

variable
  {numerator denominator : Nat}
  {magnitude : Magnitude}

theorem overflowUnits_add :
    overflowUnits + 2 ^ (970 : Nat) * unitsPerOne = 2 ^ (1024 : Nat) * unitsPerOne := by
  have halfStepInUnits : halfStep = 2 ^ (970 : Nat) * unitsPerOne := by
    rw [halfStep, unitsPerOne, two_pow_eq_mul (show 2044 = 970 + 1074 from rfl)]
  rw [← halfStepInUnits, ← two_pow_eq_units, two_pow_eq_halfStep, overflowUnits,
    ← Nat.succ_mul]

theorem overflowValue_eq :
    overflowValue = overflowUnits / unitsPerOne := by
  have asUnits := congrArg (Nat.cast : Nat → ℚ) overflowUnits_add
  simp only [Nat.cast_add, Nat.cast_mul, Nat.cast_pow, Nat.cast_ofNat] at asUnits
  rw [eq_div_iff unitsPerOne_pos.ne', overflowValue, sub_mul, ← asUnits, add_sub_cancel_right]

theorem abs_value_sub_quotient
    (positive : 0 < denominator)
    (magnitude : Magnitude) :
    |magnitude.value - (numerator : ℚ) / denominator / unitsPerOne| =
      Nat.dist (magnitude.units * denominator) numerator / (denominator * unitsPerOne) := by
  have denominatorPos : (0 : ℚ) < denominator := by exact_mod_cast positive
  have gridPos : (0 : ℚ) < denominator * unitsPerOne := mul_pos denominatorPos unitsPerOne_pos
  have difference :
      magnitude.value - (numerator : ℚ) / denominator / unitsPerOne =
        ((magnitude.units * denominator : Nat) - numerator) / (denominator * unitsPerOne) := by
    rw [value, Nat.cast_mul, div_div, sub_div, mul_comm (magnitude.units : ℚ),
      mul_div_mul_left _ _ denominatorPos.ne']
  rw [difference, abs_div, abs_of_pos gridPos, cast_dist]

theorem isNearest_of_nearest?
    (positive : 0 < denominator)
    (found : nearest? numerator denominator = some magnitude) :
    IsNearest (numerator / denominator / unitsPerOne) magnitude := by
  intro other different
  rw [abs_value_sub_quotient positive, abs_value_sub_quotient positive]
  rcases (dist_units_le positive found other).lt_or_eq with closer | tie
  · have denominatorPos : (0 : ℚ) < denominator := by exact_mod_cast positive
    exact .inl <|
      div_lt_div_of_pos_right (Nat.cast_lt.mpr closer) (mul_pos denominatorPos unitsPerOne_pos)
  · exact .inr ⟨by rw [tie], even_of_dist_eq positive found different tie⟩

theorem quotient_lt_overflowValue_iff
    (positive : 0 < denominator) :
    (numerator : ℚ) / denominator / unitsPerOne < overflowValue ↔
      numerator < overflowUnits * denominator := by
  rw [overflowValue_eq, div_lt_div_iff_of_pos_right unitsPerOne_pos,
    div_lt_iff₀ (by exact_mod_cast positive)]
  exact_mod_cast Iff.rfl

/-- The magnitude nearest to a quotient of units is the one nearest to its exact value. -/
theorem nearest?_eq_some_iff
    (positive : 0 < denominator) :
    nearest? numerator denominator = some magnitude ↔
      (numerator : ℚ) / denominator / unitsPerOne < overflowValue ∧
        IsNearest (numerator / denominator / unitsPerOne) magnitude := by
  rw [quotient_lt_overflowValue_iff positive]
  constructor
  · intro found
    refine ⟨?_, isNearest_of_nearest? positive found⟩
    by_contra notBelow
    rw [nearest?_of_not_below positive (Nat.le_of_not_lt notBelow)] at found
    cases found
  · rintro ⟨below, nearest⟩
    obtain ⟨other, found⟩ := Option.isSome_iff_exists.mp (isSome_nearest? below)
    rw [found, nearest.unique (isNearest_of_nearest? positive found)]

theorem nearest?_eq_none_iff
    (positive : 0 < denominator) :
    nearest? numerator denominator = none ↔
      overflowValue ≤ (numerator : ℚ) / denominator / unitsPerOne := by
  rw [← not_lt, quotient_lt_overflowValue_iff positive]
  constructor
  · intro nothing below
    have found := isSome_nearest? below
    rw [nothing] at found
    cases found
  · intro notBelow
    exact nearest?_of_not_below positive (Nat.le_of_not_lt notBelow)

theorem zpow_eq_div
    (exponent : Int) :
    (10 : ℚ) ^ exponent = 10 ^ exponent.toNat / 10 ^ (-exponent).toNat := by
  rw [← zpow_natCast, ← zpow_natCast, ← zpow_sub₀ (by norm_num), Int.toNat_sub_toNat_neg]

/-- A decimal number in units, as the quotient that is rounded. -/
theorem scaled_quotient_eq
    (significand : Nat)
    (exponent : Int) :
    ((significand * 10 ^ exponent.toNat * unitsPerOne : Nat) : ℚ) /
        (10 ^ (-exponent).toNat : Nat) / unitsPerOne =
      significand * 10 ^ exponent := by
  have := unitsPerOne_pos.ne'
  rw [zpow_eq_div]
  push_cast
  field_simp

variable
  {significand : Nat}
  {exponent : Int}

/-- A decimal number is rounded correctly. -/
theorem ofDecimal?_eq_some_iff :
    ofDecimal? significand exponent = some magnitude ↔
      (significand : ℚ) * 10 ^ exponent < overflowValue ∧
        IsNearest (significand * 10 ^ exponent) magnitude := by
  rw [ofDecimal?_eq_ofScaled?, ofScaled?, nearest?_eq_some_iff (Nat.pow_pos (by decide)),
    scaled_quotient_eq]

/-- A decimal number is out of range from the middle after the largest magnitude on. -/
theorem ofDecimal?_eq_none_iff :
    ofDecimal? significand exponent = none ↔
      overflowValue ≤ (significand : ℚ) * 10 ^ exponent := by
  rw [ofDecimal?_eq_ofScaled?, ofScaled?, nearest?_eq_none_iff (Nat.pow_pos (by decide)),
    scaled_quotient_eq]

end Quotients

end Magnitude

end FunctionScript
