import Mathlib.Data.Nat.Dist
import FunctionScript.Proofs.NearestMagnitude

namespace FunctionScript

/-!
# No magnitude is closer

A quotient is rounded half to even: the whole number that it is rounded to is at most
half a unit away, and a tie goes to the even one, which determines the number. The
nearest magnitude is sought on the grid of one power of two, but no magnitude of a finer
or coarser grid is closer to the exact value either. The same holds for decimal numbers,
whatever their exponents.
-/

-- Powers are those of the core library, whatever else is in scope.
attribute [local instance (high)] instPowNat

namespace Decimal

variable {numerator denominator value : Nat}

/-- Rounding half to even: less than half a unit away, or half a unit and even. -/
theorem nearest_toEven_eq_iff
    (positive : 0 < denominator) :
    nearest .toEven numerator denominator = value ↔
      2 * Nat.dist (value * denominator) numerator < denominator ∨
        2 * Nat.dist (value * denominator) numerator = denominator ∧ value % 2 = 0 := by
  have split := Nat.div_add_mod numerator denominator
  have small := Nat.mod_lt numerator positive
  simp only [nearest, Nat.dist, Tie.roundsUp, beq_iff_eq]
  generalize numerator / denominator = lower at *
  generalize numerator % denominator = excess at *
  rw [Nat.mul_comm] at split
  subst split
  rcases Nat.lt_trichotomy value lower with below | rfl | above
  · have stepDown := Nat.mul_le_mul_right denominator (Nat.succ_le_of_lt below)
    rw [Nat.succ_mul] at stepDown
    split_ifs <;> omega
  · split_ifs <;> omega
  · rcases Nat.eq_or_lt_of_le (Nat.succ_le_of_lt above) with rfl | farAbove
    · rw [Nat.succ_mul lower]
      split_ifs <;> omega
    · have stepsUp := Nat.mul_le_mul_right denominator (Nat.succ_le_of_lt farAbove)
      rw [Nat.succ_mul, Nat.succ_mul] at stepsUp
      split_ifs <;> omega

/-- What lies as close to a rounded number as what was rounded is rounded to it, too. -/
theorem nearest_toEven_eq_of_closer
    (positive : 0 < denominator)
    {other : Nat}
    (closer :
      Nat.dist (nearest .toEven numerator denominator * denominator) other ≤
        Nat.dist (nearest .toEven numerator denominator * denominator) numerator) :
    nearest .toEven other denominator = nearest .toEven numerator denominator := by
  have rounded :=
    (nearest_toEven_eq_iff positive).mp (Eq.refl (nearest .toEven numerator denominator))
  apply (nearest_toEven_eq_iff positive).mpr
  omega

/-- A number that another multiple is as close to lies half a step away, so that it goes to even. -/
theorem nearest_toEven_even_of_tie
    (positive : 0 < denominator)
    {other : Nat}
    (different : other ≠ nearest .toEven numerator denominator)
    (tie :
      Nat.dist (nearest .toEven numerator denominator * denominator) numerator =
        Nat.dist (other * denominator) numerator) :
    nearest .toEven numerator denominator % 2 = 0 := by
  have rounded :=
    (nearest_toEven_eq_iff positive).mp (Eq.refl (nearest .toEven numerator denominator))
  generalize nearest .toEven numerator denominator = digits at *
  have oneStep : denominator ≤ Nat.dist (digits * denominator) (other * denominator) := by
    rw [Nat.dist_mul_right]
    exact Nat.le_mul_of_pos_left _ (Nat.dist_pos_of_ne different.symm)
  have triangle :=
    Nat.dist.triangle_inequality (digits * denominator) numerator (other * denominator)
  rw [Nat.dist_comm (other * denominator)] at tie
  rcases rounded with closer | ⟨_, even⟩ <;> omega

/-- No multiple of the denominator is closer to the numerator than the rounded one. -/
theorem dist_nearest_le
    (tie : Tie)
    (numerator : Nat)
    (positive : 0 < denominator)
    (other : Nat) :
    Nat.dist (nearest tie numerator denominator * denominator) numerator ≤
      Nat.dist (other * denominator) numerator := by
  obtain ⟨notBelow, notAbove⟩ := nearest_within_half tie numerator positive
  generalize nearest tie numerator denominator = rounded at *
  rw [Nat.add_mul, Nat.mul_assoc] at notBelow
  rw [Nat.mul_assoc] at notAbove
  simp only [Nat.dist]
  rcases Nat.lt_trichotomy other rounded with below | rfl | above
  · have stepDown := Nat.mul_le_mul_right denominator (Nat.succ_le_of_lt below)
    rw [Nat.succ_mul] at stepDown
    omega
  · exact Nat.le_refl _
  · have stepUp := Nat.mul_le_mul_right denominator (Nat.succ_le_of_lt above)
    rw [Nat.succ_mul] at stepUp
    omega

theorem lt_pow_length
    (value : Nat) :
    value < 10 ^ length value := by
  induction value using Nat.strongRecOn with
  | ind value inductionHypothesis =>
      rw [length]
      split
      · assumption
      · have shorter := inductionHypothesis (value / 10) (by omega)
        rw [Nat.pow_succ]
        omega

end Decimal

namespace Magnitude

section Units

theorem significand_lt
    (magnitude : Magnitude) :
    magnitude.significand < 2 ^ (53 : Nat) := by
  rw [significand]
  split <;> omega

/-- A significand that a scale is added to has fifty-three binary digits, and one more at most. -/
theorem units_eq
    {magnitude : Magnitude}
    {scale digits : Nat}
    (index : magnitude.index = scale * 2 ^ (52 : Nat) + digits)
    (few : digits ≤ 2 ^ (53 : Nat))
    (normal : scale = 0 ∨ 2 ^ (52 : Nat) ≤ digits) :
    magnitude.units = digits * 2 ^ scale := by
  have scaleEq : magnitude.scale = magnitude.index / 2 ^ (52 : Nat) - 1 := rfl
  rw [units, significand]
  rcases Nat.lt_or_eq_of_le few with less | carry
  · have sameScale : magnitude.scale = scale := by omega
    rw [sameScale]
    congr 1
    split <;> omega
  · -- A carry out of the significand runs into the next scale.
    have nextScale : magnitude.scale = scale + 1 := by omega
    have large : ¬magnitude.index < 2 ^ (52 : Nat) := by omega
    have lowest : magnitude.index % 2 ^ (52 : Nat) = 0 := by omega
    rw [nextScale, if_neg large, lowest, carry, Nat.pow_succ]
    omega

/--
Every magnitude lies on the grid of a scale, or below the numbers of fifty-three binary
digits there.
-/
theorem units_on_grid_or_below
    (magnitude : Magnitude)
    (scale : Nat) :
    (∃ digits, magnitude.units = digits * 2 ^ scale) ∨
      0 < scale ∧ magnitude.units ≤ 2 ^ (52 : Nat) * 2 ^ scale := by
  rcases Nat.lt_or_ge magnitude.scale scale with finer | coarser
  · refine .inr ⟨Nat.zero_lt_of_lt finer, ?_⟩
    calc
      magnitude.units ≤ 2 ^ (53 : Nat) * 2 ^ magnitude.scale :=
        Nat.mul_le_mul_right _ (Nat.le_of_lt magnitude.significand_lt)
      _ = 2 ^ (52 : Nat) * 2 ^ (magnitude.scale + 1) := by
        rw [Nat.pow_succ 2 magnitude.scale, Nat.mul_comm _ 2, ← Nat.mul_assoc]
      _ ≤ 2 ^ (52 : Nat) * 2 ^ scale :=
        Nat.mul_le_mul_left _ (Nat.pow_le_pow_right (by decide) finer)
  · refine .inl ⟨magnitude.significand * 2 ^ (magnitude.scale - scale), ?_⟩
    rw [units, Nat.mul_assoc, ← Nat.pow_add, Nat.sub_add_cancel coarser]

end Units

section Nearest

variable
  {numerator denominator : Nat}
  {magnitude : Magnitude}

/-- A positive scale leaves fifty-three binary digits before the point. -/
theorem scaled_le_of_scaleOf_pos
    (scaled : 0 < scaleOf numerator denominator) :
    2 ^ (52 : Nat) * (denominator * 2 ^ scaleOf numerator denominator) ≤ numerator := by
  have notZero : numerator / denominator ≠ 0 := by
    intro isZero
    simp [scaleOf, isZero] at scaled
  have digits : 52 + scaleOf numerator denominator = (numerator / denominator).log2 := by
    rw [scaleOf] at scaled ⊢
    omega
  calc
    2 ^ (52 : Nat) * (denominator * 2 ^ scaleOf numerator denominator) =
        2 ^ (numerator / denominator).log2 * denominator := by
      rw [← digits, Nat.pow_add, Nat.mul_left_comm, Nat.mul_comm]
    _ ≤ numerator / denominator * denominator :=
      Nat.mul_le_mul_right _ (Nat.log2_self_le notZero)
    _ ≤ numerator := Nat.div_mul_le_self numerator denominator

theorem index_of_nearest?
    (found : nearest? numerator denominator = some magnitude) :
    magnitude.index = nearestIndex numerator denominator := by
  simp only [nearest?] at found
  split at found <;> cases found
  rfl

/-- The nearest magnitude is the rounded quotient on the grid of its scale. -/
theorem units_of_nearest?
    (positive : 0 < denominator)
    (found : nearest? numerator denominator = some magnitude) :
    magnitude.units =
      Decimal.nearest .toEven numerator
          (denominator * 2 ^ scaleOf numerator denominator) *
        2 ^ scaleOf numerator denominator := by
  have index := index_of_nearest? found
  have gridPositive : 0 < denominator * 2 ^ scaleOf numerator denominator :=
    Nat.mul_pos positive (Nat.pow_pos (by decide))
  have few := quotient_lt numerator denominator
  have rounded :=
    Decimal.nearest_eq_or .toEven numerator
      (denominator * 2 ^ scaleOf numerator denominator)
  apply units_eq index
  · omega
  · rcases Nat.eq_zero_or_pos (scaleOf numerator denominator) with unscaled | scaled
    · exact .inl unscaled
    · have many := (Nat.le_div_iff_mul_le gridPositive).mpr (scaled_le_of_scaleOf_pos scaled)
      exact .inr (by omega)

/-- No magnitude is closer to a quotient than the nearest one. -/
theorem dist_units_le
    (positive : 0 < denominator)
    (found : nearest? numerator denominator = some magnitude)
    (other : Magnitude) :
    Nat.dist (magnitude.units * denominator) numerator ≤
      Nat.dist (other.units * denominator) numerator := by
  have gridPositive : 0 < denominator * 2 ^ scaleOf numerator denominator :=
    Nat.mul_pos positive (Nat.pow_pos (by decide))
  have closest := Decimal.dist_nearest_le .toEven numerator gridPositive
  have onGrid (digits : Nat) :
      digits * 2 ^ scaleOf numerator denominator * denominator =
        digits * (denominator * 2 ^ scaleOf numerator denominator) := by
    rw [Nat.mul_assoc, Nat.mul_comm denominator]
  rw [units_of_nearest? positive found, onGrid]
  rcases other.units_on_grid_or_below (scaleOf numerator denominator) with
    ⟨digits, isUnits⟩ | ⟨scaled, below⟩
  · rw [isUnits, onGrid]
    exact closest digits
  · -- The least number with fifty-three digits on the grid stands between them.
    have leastBelow := scaled_le_of_scaleOf_pos scaled
    have otherBelow := Nat.mul_le_mul_right denominator below
    rw [onGrid] at otherBelow
    refine Nat.le_trans (closest (2 ^ (52 : Nat))) ?_
    rw [Nat.dist_eq_sub_of_le leastBelow,
      Nat.dist_eq_sub_of_le (Nat.le_trans otherBelow leastBelow)]
    exact Nat.sub_le_sub_left otherBelow numerator

/-- Less than half a unit is nearest to zero. -/
theorem nearest?_of_small
    (small : 2 * numerator < denominator) :
    nearest? numerator denominator = some zero := by
  have noUnit : numerator / denominator = 0 := Nat.div_eq_of_lt (by omega)
  have unscaled : scaleOf numerator denominator = 0 := by
    simp [scaleOf, noUnit]
  have rounded : Decimal.nearest .toEven numerator denominator = 0 := by
    apply (Decimal.nearest_toEven_eq_iff (by omega)).mpr
    simpa [Nat.dist_zero_left] using .inl small
  simp [nearest?, nearestIndex, unscaled, rounded, finiteMagnitudes, zero]

/-- From the power of two after the largest magnitude on there is no nearest one. -/
theorem nearest?_of_large
    (positive : 0 < denominator)
    (large : 2 ^ (54 : Nat) * halfStep * denominator ≤ numerator) :
    nearest? numerator denominator = none := by
  have quotientLarge := (Nat.le_div_iff_mul_le positive).mpr large
  rw [← two_pow_eq_halfStep] at quotientLarge
  have notZero : numerator / denominator ≠ 0 :=
    Nat.ne_of_gt (Nat.lt_of_lt_of_le (Nat.pow_pos (by decide)) quotientLarge)
  have digits : 2098 ≤ (numerator / denominator).log2 := (Nat.le_log2 notZero).mpr quotientLarge
  have scale : 2046 ≤ scaleOf numerator denominator := by
    rw [scaleOf]
    omega
  have gridPositive : 0 < denominator * 2 ^ scaleOf numerator denominator :=
    Nat.mul_pos positive (Nat.pow_pos (by decide))
  have many :=
    (Nat.le_div_iff_mul_le gridPositive).mpr (scaled_le_of_scaleOf_pos (by omega))
  have rounded :=
    Decimal.nearest_eq_or .toEven numerator
      (denominator * 2 ^ scaleOf numerator denominator)
  have beyond : ¬nearestIndex numerator denominator < finiteMagnitudes := by
    simp only [nearestIndex, finiteMagnitudes]
    omega
  simp [nearest?, beyond]

end Nearest

section Decimals

variable
  {significand : Nat}
  {exponent : Int}

theorem twice_unitsPerOne_lt :
    2 * unitsPerOne < 10 ^ (330 : Nat) := by
  have inUnits : 2 ^ (1075 : Nat) = 2 * unitsPerOne := by
    rw [unitsPerOne, two_pow_eq_mul (show 1075 = 1 + 1074 from rfl), Nat.pow_one]
  have morePlaces := @Nat.pow_le_pow_right 10 (by decide) 324 330 (by decide)
  rw [← inUnits]
  exact Nat.lt_of_lt_of_le powers_compare.2.2 morePlaces

theorem halfStep_le_unitsPerOne :
    2 ^ (54 : Nat) * halfStep ≤ 10 ^ (310 : Nat) * unitsPerOne := by
  rw [← two_pow_eq_halfStep]
  exact @two_pow_le 310 (Nat.le_succ 309)

/-- A decimal number with too many places before the point is beyond the largest magnitude. -/
theorem ofScaled?_of_many_places
    (positive : 0 < significand)
    {places : Nat}
    (enough : 2 ^ (54 : Nat) * halfStep ≤ 10 ^ places * unitsPerOne)
    (many : places < (Decimal.length significand : Int) + exponent) :
    ofScaled? significand exponent = none := by
  have lengthPositive := Decimal.length_pos significand
  have powers :
      10 ^ (places + (-exponent).toNat) ≤
        10 ^ (Decimal.length significand - 1 + exponent.toNat) :=
    Nat.pow_le_pow_right (by decide) (by omega)
  rw [Nat.pow_add, Nat.pow_add] at powers
  apply nearest?_of_large (Nat.pow_pos (by decide))
  calc
    2 ^ (54 : Nat) * halfStep * 10 ^ (-exponent).toNat ≤
        10 ^ places * unitsPerOne * 10 ^ (-exponent).toNat :=
      Nat.mul_le_mul_right _ enough
    _ = 10 ^ places * 10 ^ (-exponent).toNat * unitsPerOne := Nat.mul_right_comm _ _ _
    _ ≤ 10 ^ (Decimal.length significand - 1) * 10 ^ exponent.toNat * unitsPerOne :=
      Nat.mul_le_mul_right _ powers
    _ ≤ significand * 10 ^ exponent.toNat * unitsPerOne :=
      Nat.mul_le_mul_right _ (Nat.mul_le_mul_right _ (Decimal.pow_length_le positive))

/-- A decimal number with enough zeros after the point is nearest to zero. -/
theorem ofScaled?_of_few_places
    {places : Nat}
    (enough : 2 * unitsPerOne < 10 ^ places)
    (few : (Decimal.length significand : Int) + exponent < -places) :
    ofScaled? significand exponent = some zero := by
  have noPower : exponent.toNat = 0 := by omega
  have powers :
      10 ^ (places + Decimal.length significand) ≤ 10 ^ (-exponent).toNat :=
    Nat.pow_le_pow_right (by decide) (by omega)
  rw [Nat.pow_add] at powers
  apply nearest?_of_small
  rw [noPower, Nat.pow_zero, Nat.mul_one]
  calc
    2 * (significand * unitsPerOne) = 2 * unitsPerOne * significand := by
      rw [Nat.mul_comm significand, Nat.mul_assoc]
    _ < 10 ^ places * 10 ^ Decimal.length significand :=
      Nat.mul_lt_mul_of_lt_of_le enough
        (Nat.le_of_lt (Decimal.lt_pow_length significand)) (Nat.pow_pos (by decide))
    _ ≤ 10 ^ (-exponent).toNat := powers

/-- Whatever its exponent, a decimal number is rounded as it would be exactly. -/
theorem ofDecimal?_eq_ofScaled?
    (significand : Nat)
    (exponent : Int) :
    ofDecimal? significand exponent = ofScaled? significand exponent := by
  rcases Nat.eq_zero_or_pos significand with rfl | positive
  · have noUnit : ofScaled? 0 exponent = some zero := by
      apply nearest?_of_small
      rw [Nat.zero_mul, Nat.zero_mul]
      exact Nat.pow_pos (by decide)
    rw [noUnit]
    rfl
  · simp only [ofDecimal?, Nat.ne_of_gt positive, ↓reduceIte]
    split
    case isTrue many =>
      exact (ofScaled?_of_many_places positive halfStep_le_unitsPerOne many).symm
    case isFalse =>
      split
      case isTrue few => exact (ofScaled?_of_few_places twice_unitsPerOne_lt few).symm
      case isFalse => rfl

end Decimals

end Magnitude

end FunctionScript
