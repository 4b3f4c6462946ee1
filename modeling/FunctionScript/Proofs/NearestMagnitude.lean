import FunctionScript.Decimal.Fixed
import FunctionScript.Decimal.Shortest

namespace FunctionScript

/-!
# Which decimal numbers have a nearest magnitude

The nearest magnitude depends on the value of a quotient and not on how it is
written, and so does that of a decimal number. There is one for every value that lies
below the middle between the largest magnitude and the power of two after it. A
magnitude that is rounded to a decimal grid stays below, unless the grid is coarser
than seventeen digits ever ask for.
-/

-- Powers are those of the core library, whatever else is in scope.
attribute [local instance (high)] instPowNat

namespace Decimal

section Quotient

/-- Rounding depends on the value of a quotient only. -/
theorem nearest_mul_left
    {factor : Nat}
    (positive : 0 < factor)
    (tie : Tie)
    (numerator denominator : Nat) :
    nearest tie (factor * numerator) (factor * denominator) =
      nearest tie numerator denominator := by
  have sameTwice :
      2 * (factor * numerator % (factor * denominator)) =
        factor * (2 * (numerator % denominator)) := by
    rw [Nat.mul_mod_mul_left, Nat.mul_left_comm]
  simp only [nearest, Nat.mul_div_mul_left _ _ positive, sameTwice,
    Nat.mul_lt_mul_left positive, Nat.mul_right_inj (Nat.ne_of_gt positive)]

/-- What is more than half a unit below a whole number is rounded to a smaller one. -/
theorem nearest_lt
    (tie : Tie)
    {numerator denominator bound : Nat}
    (below : 2 * numerator + denominator < 2 * bound * denominator) :
    nearest tie numerator denominator < bound := by
  have positive : 0 < denominator := by
    refine Nat.pos_of_ne_zero fun isZero => ?_
    simp [isZero] at below
  have within := (nearest_within_half tie numerator positive).2
  have twice := Nat.lt_of_mul_lt_mul_right (Nat.lt_of_le_of_lt within below)
  exact Nat.lt_of_mul_lt_mul_left twice

end Quotient

section Length

theorem length_pos
    (value : Nat) :
    0 < length value := by
  rw [length]
  split <;> omega

theorem pow_length_le
    {value : Nat}
    (positive : 0 < value) :
    10 ^ (length value - 1) ≤ value := by
  induction value using Nat.strongRecOn with
  | ind value inductionHypothesis =>
      rw [length]
      split
      · exact positive
      · have shorter := inductionHypothesis (value / 10) (by omega) (by omega)
        obtain ⟨less, isLess⟩ :=
          Nat.exists_eq_succ_of_ne_zero (Nat.ne_of_gt (length_pos (value / 10)))
        rw [isLess] at shorter ⊢
        simp only [Nat.succ_eq_add_one, Nat.add_sub_cancel, Nat.pow_succ] at shorter ⊢
        omega

/-- A power of ten bounds the length. -/
theorem length_le_of_lt_pow
    {value width : Nat}
    (isPositive : 0 < width)
    (below : value < 10 ^ width) :
    length value ≤ width := by
  rcases Nat.eq_zero_or_pos value with rfl | positive
  · rw [length, if_pos (by decide)]
    exact isPositive
  · have shorter : 10 ^ (length value - 1) < 10 ^ width :=
      Nat.lt_of_le_of_lt (pow_length_le positive) below
    have := (Nat.pow_lt_pow_iff_right (by decide)).mp shorter
    omega

/-- Zeros at the end count. -/
theorem length_mul_pow
    {value : Nat}
    (positive : 0 < value)
    (zeros : Nat) :
    length (value * 10 ^ zeros) = length value + zeros := by
  induction zeros with
  | zero => simp
  | succ zeros inductionHypothesis =>
      have positivePower : 0 < 10 ^ zeros := Nat.pow_pos (by decide)
      have large : ¬value * 10 ^ (zeros + 1) < 10 := by
        have := Nat.mul_le_mul positive positivePower
        rw [Nat.pow_succ, ← Nat.mul_assoc]
        omega
      rw [length, if_neg large, Nat.pow_succ, ← Nat.mul_assoc,
        Nat.mul_div_cancel _ (by decide), inductionHypothesis]
      omega

end Length

end Decimal

namespace Magnitude

section Quotient

variable {numerator denominator : Nat}

theorem nearest?_mul_left
    {factor : Nat}
    (positive : 0 < factor)
    (numerator denominator : Nat) :
    nearest? (factor * numerator) (factor * denominator) =
      nearest? numerator denominator := by
  have sameIndex :
      nearestIndex (factor * numerator) (factor * denominator) =
        nearestIndex numerator denominator := by
    simp only [nearestIndex, scaleOf, Nat.mul_div_mul_left _ _ positive, Nat.mul_assoc,
      Decimal.nearest_mul_left positive]
  simp only [nearest?, sameIndex]

/-- Equal quotients have the same nearest magnitude. -/
theorem nearest?_congr
    {otherNumerator otherDenominator : Nat}
    (positive : 0 < denominator)
    (otherPositive : 0 < otherDenominator)
    (same : otherDenominator * numerator = denominator * otherNumerator) :
    nearest? numerator denominator = nearest? otherNumerator otherDenominator := by
  rw [← nearest?_mul_left otherPositive numerator denominator, same,
    Nat.mul_comm otherDenominator denominator, nearest?_mul_left positive]

/-- Half the units between the largest magnitudes. -/
def halfStep : Nat :=
  2 ^ (2044 : Nat)

/-- Units in the middle between the largest magnitude and the power of two after it. -/
def overflowUnits : Nat :=
  (2 ^ (54 : Nat) - 1) * halfStep

theorem two_pow_eq_mul
    {whole left right : Nat}
    (split : whole = left + right) :
    2 ^ whole = 2 ^ left * 2 ^ right := by
  rw [split, Nat.pow_add]

theorem zero_lt_unitsPerOne :
    0 < unitsPerOne := by
  rw [unitsPerOne]
  exact Nat.two_pow_pos 1074

theorem zero_lt_halfStep :
    0 < halfStep := by
  rw [halfStep]
  exact Nat.two_pow_pos 2044

/-- How powers of two and of ten compare near both ends of the range. -/
theorem powers_compare :
    2 ^ (1024 : Nat) < 10 ^ (309 : Nat) ∧
      10 ^ (292 : Nat) < 2 ^ (971 : Nat) ∧
      2 ^ (1075 : Nat) < 10 ^ (324 : Nat) := by
  decide +kernel

theorem two_pow_greatestScale :
    2 ^ (2045 : Nat) = 2 * halfStep := by
  rw [halfStep, two_pow_eq_mul (show 2045 = 1 + 2044 from rfl), Nat.pow_one]

/-- The power of two after the largest magnitude. -/
theorem two_pow_eq_halfStep :
    2 ^ (2098 : Nat) = 2 ^ (54 : Nat) * halfStep := by
  rw [halfStep, two_pow_eq_mul (show 2098 = 54 + 2044 from rfl)]

theorem two_pow_eq_units :
    2 ^ (2098 : Nat) = 2 ^ (1024 : Nat) * unitsPerOne := by
  rw [unitsPerOne, two_pow_eq_mul (show 2098 = 1024 + 1074 from rfl)]

theorem overflowUnits_lt :
    overflowUnits < 2 ^ (2098 : Nat) := by
  rw [two_pow_eq_halfStep]
  exact Nat.mul_lt_mul_of_pos_right (by decide) zero_lt_halfStep

/-- The scale leaves no more than fifty-three binary digits before the point. -/
theorem quotient_lt
    (numerator denominator : Nat) :
    numerator / (denominator * 2 ^ scaleOf numerator denominator) < 2 ^ (53 : Nat) := by
  rw [← Nat.div_div_eq_div_mul, Nat.div_lt_iff_lt_mul (Nat.pow_pos (by decide)),
    ← Nat.pow_add]
  have whole : numerator / denominator < 2 ^ ((numerator / denominator).log2 + 1) :=
    Nat.lt_log2_self
  refine Nat.lt_of_lt_of_le whole (Nat.pow_le_pow_right (by decide) ?_)
  rw [scaleOf]
  omega

theorem nearestIndex_lt_of_scaleOf
    (below : scaleOf numerator denominator < 2045) :
    nearestIndex numerator denominator < finiteMagnitudes := by
  have small := quotient_lt numerator denominator
  simp only [nearestIndex, finiteMagnitudes]
  rcases Decimal.nearest_eq_or .toEven numerator
      (denominator * 2 ^ scaleOf numerator denominator) with rounded | rounded
  · rw [rounded]
    omega
  · rw [rounded]
    omega

theorem scaleOf_le
    (below : numerator < overflowUnits * denominator) :
    scaleOf numerator denominator ≤ 2045 := by
  have quotientBelow : numerator / denominator < overflowUnits :=
    Nat.div_lt_of_lt_mul (by rwa [Nat.mul_comm])
  rw [scaleOf]
  rcases Nat.eq_zero_or_pos (numerator / denominator) with isZero | positive
  · simp [isZero]
  · have shorter : (numerator / denominator).log2 < 2098 :=
      (Nat.log2_lt (Nat.ne_of_gt positive)).mpr (Nat.lt_trans quotientBelow overflowUnits_lt)
    omega

/-- At the greatest scale, what lies below the middle is not rounded up to the power of two. -/
theorem nearest_lt_of_below
    (below : numerator < overflowUnits * denominator) :
    Decimal.nearest .toEven numerator (denominator * 2 ^ (2045 : Nat)) < 2 ^ (53 : Nat) := by
  apply Decimal.nearest_lt
  rw [overflowUnits, Nat.mul_assoc] at below
  rw [two_pow_greatestScale, Nat.mul_left_comm, Nat.mul_comm denominator]
  generalize halfStep * denominator = half at *
  omega

/-- Quotients of units below the middle have a nearest magnitude. -/
theorem isSome_nearest?
    (below : numerator < overflowUnits * denominator) :
    (nearest? numerator denominator).isSome := by
  have index : nearestIndex numerator denominator < finiteMagnitudes := by
    rcases Nat.lt_or_eq_of_le (scaleOf_le below) with less | greatest
    · exact nearestIndex_lt_of_scaleOf less
    · have rounded := nearest_lt_of_below below
      rw [← greatest] at rounded
      simp only [nearestIndex, finiteMagnitudes]
      generalize
        Decimal.nearest .toEven numerator
          (denominator * 2 ^ scaleOf numerator denominator) = place at *
      omega
  simp [nearest?, index]

end Quotient

section Decimals

variable
  {significand : Nat}
  {exponent : Int}

/-- A decimal number below a power of ten has no more places before the point. -/
theorem places_le
    (positive : 0 < significand)
    {bound places : Nat}
    (boundLe : bound ≤ 10 ^ places * unitsPerOne)
    (below :
      significand * 10 ^ exponent.toNat * unitsPerOne < bound * 10 ^ (-exponent).toNat) :
    (Decimal.length significand : Int) + exponent ≤ places := by
  have belowPower :
      significand * 10 ^ exponent.toNat < 10 ^ places * 10 ^ (-exponent).toNat := by
    refine Nat.lt_of_mul_lt_mul_right (a := unitsPerOne) (Nat.lt_of_lt_of_le below ?_)
    rw [Nat.mul_right_comm]
    exact Nat.mul_le_mul_right _ boundLe
  have powers :
      10 ^ (Decimal.length significand - 1 + exponent.toNat) <
        10 ^ (places + (-exponent).toNat) := by
    rw [Nat.pow_add, Nat.pow_add]
    exact Nat.lt_of_le_of_lt
      (Nat.mul_le_mul_right _ (Decimal.pow_length_le positive)) belowPower
  have exponents := (Nat.pow_lt_pow_iff_right (by decide)).mp powers
  have lengthPos := Decimal.length_pos significand
  omega

/-- The power of two after the largest magnitude has at most 309 places before the point. -/
theorem two_pow_le
    {places : Nat}
    (enough : 309 ≤ places) :
    2 ^ (2098 : Nat) ≤ 10 ^ places * unitsPerOne := by
  have morePlaces := @Nat.pow_le_pow_right 10 (by decide) 309 places enough
  have powers := Nat.le_trans (Nat.le_of_lt powers_compare.1) morePlaces
  rw [two_pow_eq_units]
  generalize 2 ^ (1024 : Nat) = large at *
  exact Nat.mul_le_mul_right unitsPerOne powers

theorem overflowUnits_le
    {places : Nat}
    (enough : 309 ≤ places) :
    overflowUnits ≤ 10 ^ places * unitsPerOne :=
  Nat.le_trans (Nat.le_of_lt overflowUnits_lt) (two_pow_le enough)

/-- Decimal numbers below the middle have a nearest magnitude. -/
theorem isSome_ofDecimal?
    (below :
      significand * 10 ^ exponent.toNat * unitsPerOne <
        overflowUnits * 10 ^ (-exponent).toNat) :
    (ofDecimal? significand exponent).isSome := by
  rcases Nat.eq_zero_or_pos significand with isZero | positive
  · simp [ofDecimal?, isZero]
  · have fewPlaces := places_le positive (overflowUnits_le (Nat.le_succ 309)) below
    have notBeyond : ¬310 < (Decimal.length significand : Int) + exponent := by
      omega
    simp only [ofDecimal?, Nat.ne_of_gt positive, ↓reduceIte, notBeyond]
    split
    · rfl
    · exact isSome_nearest? below

/-- A decimal number may be written with more digits and a smaller exponent. -/
theorem ofDecimal?_mul_pow
    (significand zeros : Nat)
    (exponent : Int) :
    ofDecimal? (significand * 10 ^ zeros) exponent =
      ofDecimal? significand (exponent + zeros) := by
  rcases Nat.eq_zero_or_pos significand with isZero | positive
  · simp [ofDecimal?, isZero]
  · have powerPositive (power : Nat) : 0 < 10 ^ power := Nat.pow_pos (by decide)
    have notZero : significand * 10 ^ zeros ≠ 0 :=
      Nat.ne_of_gt (Nat.mul_pos positive (powerPositive zeros))
    have samePlaces :
        (Decimal.length (significand * 10 ^ zeros) : Int) + exponent =
          Decimal.length significand + (exponent + zeros) := by
      rw [Decimal.length_mul_pow positive]
      omega
    have sameScaled :
        ofScaled? (significand * 10 ^ zeros) exponent =
          ofScaled? significand (exponent + zeros) := by
      refine nearest?_congr (powerPositive _) (powerPositive _) ?_
      have samePower :
          10 ^ (-(exponent + zeros)).toNat * (10 ^ zeros * 10 ^ exponent.toNat) =
            10 ^ (-exponent).toNat * 10 ^ (exponent + zeros).toNat := by
        rw [← Nat.pow_add, ← Nat.pow_add, ← Nat.pow_add]
        congr 1
        omega
      calc
        10 ^ (-(exponent + zeros)).toNat *
              (significand * 10 ^ zeros * 10 ^ exponent.toNat * unitsPerOne) =
            10 ^ (-(exponent + zeros)).toNat * (10 ^ zeros * 10 ^ exponent.toNat) *
              (significand * unitsPerOne) := by
          simp only [Nat.mul_assoc, Nat.mul_left_comm]
        _ =
            10 ^ (-exponent).toNat *
              (significand * 10 ^ (exponent + zeros).toNat * unitsPerOne) := by
          rw [samePower]
          simp only [Nat.mul_assoc, Nat.mul_left_comm]
    simp only [ofDecimal?, notZero, Nat.ne_of_gt positive, ↓reduceIte, samePlaces,
      sameScaled]

/-- The middle lies half a step above the largest magnitude. -/
theorem units_add_le
    (magnitude : Magnitude) :
    magnitude.units + halfStep ≤ overflowUnits := by
  have inRange := magnitude.isFinite
  have significandLe : magnitude.significand ≤ 2 ^ (53 : Nat) - 1 := by
    rw [significand]
    split <;> omega
  have scaleLe : magnitude.scale ≤ 2045 := by
    rw [scale]
    simp only [finiteMagnitudes] at inRange
    omega
  have powerLe : 2 ^ magnitude.scale ≤ 2 * halfStep :=
    Nat.le_trans (Nat.pow_le_pow_right (by decide) scaleLe)
      (Nat.le_of_eq two_pow_greatestScale)
  have unitsLe : magnitude.units ≤ (2 ^ (53 : Nat) - 1) * (2 * halfStep) :=
    Nat.mul_le_mul significandLe powerLe
  rw [overflowUnits]
  omega

end Decimals

end Magnitude

namespace Decimal

theorem coarsestGrid_lt :
    unitsPerOne * 10 ^ (292 : Nat) < 2 * Magnitude.halfStep := by
  have inUnits : 2 ^ (2045 : Nat) = unitsPerOne * 2 ^ (971 : Nat) := by
    rw [unitsPerOne, Magnitude.two_pow_eq_mul (show 2045 = 1074 + 971 from rfl)]
  rw [← Magnitude.two_pow_greatestScale, inUnits]
  exact Nat.mul_lt_mul_of_pos_left Magnitude.powers_compare.2.1 Magnitude.zero_lt_unitsPerOne

/-- Rounding a magnitude to a grid of decimal numbers does not lead beyond the largest magnitude. -/
theorem isSome_ofDecimal?_onGrid
    (tie : Tie)
    (magnitude : Magnitude)
    {exponent : Int}
    (fine : exponent ≤ 292) :
    (Magnitude.ofDecimal?
      (nearest tie (onGrid magnitude exponent).1 (onGrid magnitude exponent).2)
      exponent).isSome := by
  have powerPositive (power : Nat) : 0 < 10 ^ power := Nat.pow_pos (by decide)
  have gridPositive : 0 < (onGrid magnitude exponent).2 :=
    Nat.mul_pos Magnitude.zero_lt_unitsPerOne (powerPositive _)
  have within := (nearest_within_half tie (onGrid magnitude exponent).1 gridPositive).2
  have gridBelow : (onGrid magnitude exponent).2 < 2 * Magnitude.halfStep := by
    have exponentLe : exponent.toNat ≤ 292 := by
      omega
    exact Nat.lt_of_le_of_lt
      (Nat.mul_le_mul_left _ (Nat.pow_le_pow_right (by decide) exponentLe))
      coarsestGrid_lt
  have unitsBelow :=
    Nat.mul_le_mul_right (10 ^ (-exponent).toNat) magnitude.units_add_le
  have halfStepLe : Magnitude.halfStep ≤ Magnitude.halfStep * 10 ^ (-exponent).toNat :=
    Nat.le_mul_of_pos_right _ (powerPositive _)
  apply Magnitude.isSome_ofDecimal?
  rw [Nat.mul_assoc, Nat.mul_comm (10 ^ exponent.toNat)]
  rw [Nat.add_mul] at unitsBelow
  rw [Nat.mul_assoc] at within
  -- Twice the rounded number of units is at most twice the units and one grid step.
  change
    2 * (nearest tie (onGrid magnitude exponent).1 (onGrid magnitude exponent).2 *
          (onGrid magnitude exponent).2) ≤
      2 * (magnitude.units * 10 ^ (-exponent).toNat) + (onGrid magnitude exponent).2
    at within
  change
    nearest tie (onGrid magnitude exponent).1 (onGrid magnitude exponent).2 *
        (onGrid magnitude exponent).2 <
      Magnitude.overflowUnits * 10 ^ (-exponent).toNat
  omega

end Decimal

end FunctionScript
