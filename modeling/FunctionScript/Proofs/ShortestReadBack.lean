import FunctionScript.Proofs.DecimalGrid
import FunctionScript.Proofs.NumeralText

namespace FunctionScript.Decimal

/-!
# Shortest digits read back

The digits that are chosen for a magnitude read back as the magnitude. No decimal
number with fewer significant digits does, and none with as many is closer: on the grid
of as many digits as such a number has, it does not stand between the magnitude's two
neighbours, so the neighbour on its side reads back, too. Seventeen digits suffice,
because half a step of their grid is less than half the way to any other magnitude.
-/

-- Powers are those of the core library, whatever else is in scope.
attribute [local instance (high)] instPowNat

variable
  {tie : Tie}
  {magnitude : Magnitude}
  {scaled other : Scaled}
  {exponent : Int}

section Counting

/-- How many digits a significand has without the zeros at its end. -/
def significantCount
    (significand : Nat) :
    Nat :=
  (significantDigits significand).length

theorem significantCount_pos
    (significand : Nat) :
    0 < significantCount significand :=
  List.length_pos_iff.mpr (significantDigits_ne_nil significand)

theorem significantCount_le_length
    (significand : Nat) :
    significantCount significand ≤ length significand := by
  obtain ⟨zeros, _, isLength⟩ := exists_zeros_significantDigits significand
  rw [significantCount, isLength]
  exact Nat.le_add_right _ _

/-- A significand is one of as many digits as count, with zeros behind them. -/
theorem exists_eq_mul_pow
    (significand : Nat) :
    ∃ leading zeros,
      significand = leading * 10 ^ zeros ∧ leading < 10 ^ significantCount significand := by
  obtain ⟨zeros, isProduct, _⟩ := exists_zeros_significantDigits significand
  exact ⟨_, zeros, isProduct, ofDigits_lt_pow (small_significantDigits significand)⟩

theorem digits_pow
    (zeros : Nat) :
    digits (10 ^ zeros) = 1 :: List.replicate zeros 0 := by
  induction zeros with
  | zero => simp [digits]
  | succ zeros inductionHypothesis =>
      have positive : 0 < 10 ^ zeros := Nat.pow_pos (by decide)
      have large : ¬10 ^ (zeros + 1) < 10 := by
        rw [Nat.pow_succ]
        omega
      rw [digits, if_neg large, Nat.pow_succ, Nat.mul_div_cancel _ (by decide),
        Nat.mul_mod_left, inductionHypothesis, List.cons_append, ← List.replicate_succ']

/-- A power of ten has one significant digit. -/
theorem significantCount_pow
    (zeros : Nat) :
    significantCount (10 ^ zeros) = 1 := by
  simp [significantCount, significantDigits, digits_pow]

/-- There are as many digits as a power of ten bounds, the power itself included. -/
theorem significantCount_le_of_le_pow
    {significand count : Nat}
    (positive : 0 < count)
    (atMost : significand ≤ 10 ^ count) :
    significantCount significand ≤ count := by
  rcases Nat.lt_or_eq_of_le atMost with less | isPower
  · exact Nat.le_trans (significantCount_le_length significand)
      (length_le_of_lt_pow positive less)
  · rw [isPower, significantCount_pow]
    exact positive

end Counting

section Neighbours

/-- The greatest decimal number on a grid that is not above the magnitude. -/
def lower
    (magnitude : Magnitude)
    (exponent : Int) :
    Scaled :=
  ⟨lowerNeighbour magnitude exponent, exponent⟩

/-- The least decimal number on a grid that is above the magnitude. -/
def upper
    (magnitude : Magnitude)
    (exponent : Int) :
    Scaled :=
  ⟨lowerNeighbour magnitude exponent + 1, exponent⟩

theorem value_lower_le
    (magnitude : Magnitude)
    (exponent : Int) :
    (lower magnitude exponent).value ≤ magnitude.value :=
  lowerNeighbour_mul_le magnitude exponent

theorem lt_value_upper
    (magnitude : Magnitude)
    (exponent : Int) :
    magnitude.value < (upper magnitude exponent).value :=
  lt_upperNeighbour_mul magnitude exponent

/-- What is on the grid of a power of ten is not between the two neighbours. -/
theorem onGrid_le_lower_or_upper_le
    (magnitude : Magnitude)
    (exponent : Int)
    (steps : Nat) :
    (steps : ℚ) * 10 ^ exponent ≤ (lower magnitude exponent).value ∨
      (upper magnitude exponent).value ≤ steps * 10 ^ exponent := by
  have stepPos := zpow_ten_pos exponent
  rcases Nat.lt_or_ge (lowerNeighbour magnitude exponent) steps with above | notAbove
  · exact .inr (mul_le_mul_of_nonneg_right (by exact_mod_cast above) stepPos.le)
  · exact .inl (mul_le_mul_of_nonneg_right (by exact_mod_cast notAbove) stepPos.le)

/-- On the grid of some digits, the lower neighbour has that many. -/
theorem pow_le_lowerNeighbour
    (notZero : magnitude ≠ Magnitude.zero)
    (more : Nat) :
    10 ^ more ≤ lowerNeighbour magnitude (leadingExponent magnitude - more) := by
  have leading := pow_leadingExponent_le notZero
  have above := lt_upperNeighbour_mul magnitude (leadingExponent magnitude - more)
  rw [zpow_ten_eq _ more] at leading
  have inSteps := lt_of_mul_lt_mul_right (lt_of_le_of_lt leading above) (zpow_ten_pos _).le
  exact Nat.lt_succ_iff.mp (by exact_mod_cast inSteps)

theorem lowerNeighbour_lt_pow
    (magnitude : Magnitude)
    (more : Nat) :
    lowerNeighbour magnitude (leadingExponent magnitude - more) < 10 ^ (more + 1) := by
  have leading := lt_pow_leadingExponent magnitude
  have below := lowerNeighbour_mul_le magnitude (leadingExponent magnitude - more)
  have split :
      (10 : ℚ) ^ (leadingExponent magnitude + 1) =
        10 ^ (more + 1) * 10 ^ (leadingExponent magnitude - more) := by
    rw [← zpow_natCast, ← zpow_add₀ (by norm_num)]
    congr 1
    omega
  rw [split] at leading
  have inSteps := lt_of_mul_lt_mul_right (lt_of_le_of_lt below leading) (zpow_ten_pos _).le
  exact_mod_cast inSteps

/-- Few digits on a finer grid come to less than the magnitude's first digits. -/
theorem value_le_lower_of_finer
    (notZero : magnitude ≠ Magnitude.zero)
    {more leading : Nat}
    {exponent : Int}
    (few : leading ≤ 10 ^ (more + 1))
    (finer : exponent < leadingExponent magnitude - more) :
    leading * (10 : ℚ) ^ exponent ≤ (lower magnitude (leadingExponent magnitude - more)).value := by
  have leadingLe : (leading : ℚ) ≤ 10 ^ (more + 1) := by
    exact_mod_cast few
  have lowerLarge :
      ((10 : ℚ) ^ more) ≤ lowerNeighbour magnitude (leadingExponent magnitude - more) := by
    exact_mod_cast pow_le_lowerNeighbour notZero more
  have nextExponent : (10 : ℚ) ^ exponent * 10 ≤ 10 ^ (leadingExponent magnitude - more) := by
    rw [← zpow_add_one₀ (by norm_num)]
    exact zpow_le_zpow_right₀ (by norm_num) (by omega)
  calc
    leading * (10 : ℚ) ^ exponent ≤ 10 ^ (more + 1) * 10 ^ exponent :=
      mul_le_mul_of_nonneg_right leadingLe (zpow_ten_pos _).le
    _ = 10 ^ more * (10 ^ exponent * 10) := by ring
    _ ≤ 10 ^ more * 10 ^ (leadingExponent magnitude - more) :=
      mul_le_mul_of_nonneg_left nextExponent (by positivity)
    _ ≤ (lower magnitude (leadingExponent magnitude - more)).value :=
      mul_le_mul_of_nonneg_right lowerLarge (zpow_ten_pos _).le

/--
A decimal number with no more digits than a grid shows is not between the magnitude's
neighbours on the grid: it is on the grid, or has a later first digit.
-/
theorem value_le_lower_or_upper_le
    (notZero : magnitude ≠ Magnitude.zero)
    {more : Nat}
    (few : significantCount other.significand ≤ more + 1) :
    other.value ≤ (lower magnitude (leadingExponent magnitude - more)).value ∨
      (upper magnitude (leadingExponent magnitude - more)).value ≤ other.value := by
  obtain ⟨leading, zeros, isProduct, leadingBelow⟩ := exists_eq_mul_pow other.significand
  have isValue : other.value = leading * 10 ^ (other.exponent + zeros) := by
    rw [Scaled.value, isProduct, zpow_add₀ (by norm_num), zpow_natCast]
    push_cast
    ring
  rcases lt_or_ge (other.exponent + zeros) (leadingExponent magnitude - more) with
    finer | onGrid
  · left
    have fewDigits := Nat.pow_le_pow_right (show 0 < 10 by decide) few
    rw [isValue]
    exact value_le_lower_of_finer notZero (Nat.le_trans (Nat.le_of_lt leadingBelow) fewDigits) finer
  · obtain ⟨coarser, isCoarser⟩ := Int.le.dest onGrid
    have inSteps :
        other.value =
          ((leading * 10 ^ coarser : Nat) : ℚ) * 10 ^ (leadingExponent magnitude - more) := by
      rw [isValue, ← isCoarser, zpow_add₀ (by norm_num), zpow_natCast]
      push_cast
      ring
    rw [inSteps]
    exact onGrid_le_lower_or_upper_le magnitude _ _

/-- A neighbour on the grid of some digits has no more than these. -/
theorem significantCount_le_of_neighbour
    {more significand : Nat}
    (isGrid : exponent = leadingExponent magnitude - more)
    (neighbour :
      significand = lowerNeighbour magnitude exponent ∨
        significand = lowerNeighbour magnitude exponent + 1) :
    significantCount significand ≤ more + 1 := by
  rw [isGrid] at neighbour
  have below := lowerNeighbour_lt_pow magnitude more
  apply significantCount_le_of_le_pow (Nat.succ_pos more)
  rcases neighbour with isLower | isUpper <;> omega

end Neighbours

section Choice

theorem onGrid?_eq_none_iff :
    onGrid? tie magnitude exponent = none ↔
      ¬readsBack magnitude (lower magnitude exponent) ∧
        ¬readsBack magnitude (upper magnitude exponent) := by
  simp only [onGrid?, lower, upper, lowerNeighbour]
  split <;> simp_all

/-- A neighbour reads back on the grid of the digits that a number which reads back has. -/
theorem onGrid?_ne_none
    (notZero : magnitude ≠ Magnitude.zero)
    (back : readsBack magnitude other)
    {more : Nat}
    (few : significantCount other.significand ≤ more + 1) :
    onGrid? tie magnitude (leadingExponent magnitude - more) ≠ none := by
  rw [ne_eq, onGrid?_eq_none_iff]
  rintro ⟨notLower, notUpper⟩
  rcases value_le_lower_or_upper_le notZero few with below | above
  · exact notLower (readsBack_of_ge back below (value_lower_le magnitude _))
  · exact notUpper (readsBack_of_le back (lt_value_upper magnitude _).le above)

theorem abs_sub_le_of_le
    {near far exact : ℚ}
    (outside : far ≤ near ∧ near ≤ exact ∨ exact ≤ near ∧ near ≤ far) :
    |near - exact| ≤ |far - exact| := by
  rcases outside with ⟨further, below⟩ | ⟨above, further⟩
  · rw [abs_of_nonpos (by linarith), abs_of_nonpos (by linarith)]
    linarith
  · rw [abs_of_nonneg (by linarith), abs_of_nonneg (by linarith)]
    linarith

/-- What is taken from a grid is as close as whatever reads back outside the neighbours. -/
theorem onGrid?_closest
    (found : onGrid? tie magnitude exponent = some scaled)
    (back : readsBack magnitude other)
    (outside :
      other.value ≤ (lower magnitude exponent).value ∨
        (upper magnitude exponent).value ≤ other.value) :
    |scaled.value - magnitude.value| ≤ |other.value - magnitude.value| := by
  have lowerCloser (below : other.value ≤ (lower magnitude exponent).value) :=
    abs_sub_le_of_le (.inl ⟨below, value_lower_le magnitude exponent⟩)
  have upperCloser (above : (upper magnitude exponent).value ≤ other.value) :=
    abs_sub_le_of_le (.inr ⟨(lt_value_upper magnitude exponent).le, above⟩)
  have nearestLower :=
    abs_nearest_onGrid_sub_le tie magnitude exponent (lowerNeighbour magnitude exponent)
  have nearestUpper :=
    abs_nearest_onGrid_sub_le tie magnitude exponent (lowerNeighbour magnitude exponent + 1)
  simp only [onGrid?] at found
  split at found
  case h_1 =>
    obtain rfl := Option.some.inj found
    rcases outside with below | above
    · exact le_trans nearestLower (lowerCloser below)
    · exact le_trans nearestUpper (upperCloser above)
  case h_2 _ notUpper =>
    obtain rfl := Option.some.inj found
    rcases outside with below | above
    · exact lowerCloser below
    · have upperBack := readsBack_of_le back (lt_value_upper magnitude exponent).le above
      exact absurd upperBack (Bool.eq_false_iff.mp notUpper)
  case h_3 notLower _ =>
    obtain rfl := Option.some.inj found
    rcases outside with below | above
    · have lowerBack := readsBack_of_ge back below (value_lower_le magnitude exponent)
      exact absurd lowerBack (Bool.eq_false_iff.mp notLower)
    · exact upperCloser above
  case h_4 => cases found

end Choice

section Shortest

/-- Digits that read back, as few as any that do, and of those as close as any. -/
structure IsShortest
    (magnitude : Magnitude)
    (scaled : Scaled) :
    Prop where
  back : readsBack magnitude scaled
  fewest :
    ∀ other, readsBack magnitude other →
      significantCount scaled.significand ≤ significantCount other.significand
  closest :
    ∀ other, readsBack magnitude other →
      significantCount other.significand = significantCount scaled.significand →
        |scaled.value - magnitude.value| ≤ |other.value - magnitude.value|

/-- The nearest number of seventeen digits reads back. -/
theorem readsBack_seventeenDigits
    (tie : Tie)
    (notZero : magnitude ≠ Magnitude.zero) :
    readsBack magnitude (seventeenDigits tie magnitude) := by
  have halfStep :=
    two_mul_abs_nearest_onGrid_sub_le tie magnitude (leadingExponent magnitude - 16)
  have leading := pow_leadingExponent_le notZero
  rw [zpow_ten_eq _ 16, Nat.cast_ofNat] at leading
  refine readsBack_of_isNearest (seventeenDigits_isNeighbour tie magnitude).inRange
    (Magnitude.isNearest_of_close fun other different => ?_)
  have apart := Magnitude.value_le_mul_abs_sub different
  have isApart : 0 < |other.value - magnitude.value| :=
    abs_pos.mpr (sub_ne_zero.mpr fun same => different (Magnitude.value_inj same))
  -- Sixteen decimal digits tell more numbers apart than fifty-three binary ones.
  have fine : (2 : ℚ) ^ (53 : Nat) < 10 ^ (16 : Nat) := by norm_num
  have stepLt :
      (10 : ℚ) ^ (leadingExponent magnitude - 16) < |other.value - magnitude.value| := by
    have further := lt_of_le_of_lt apart (mul_lt_mul_of_pos_right fine isApart)
    exact lt_of_mul_lt_mul_left (lt_of_le_of_lt leading further) (by positivity)
  rw [abs_sub_comm]
  simp only [seventeenDigits, Scaled.value]
  exact lt_of_le_of_lt halfStep stepLt

/-- The first of some numbers at which something is found. -/
theorem exists_first_of_findSome?_range
    {attempt : Nat → Option Scaled}
    {count : Nat}
    (found : (List.range count).findSome? attempt = some scaled) :
    ∃ first, attempt first = some scaled ∧ ∀ earlier < first, attempt earlier = none := by
  induction count with
  | zero => cases found
  | succ count inductionHypothesis =>
      rw [List.range_succ, List.findSome?_append] at found
      cases before : (List.range count).findSome? attempt with
      | some other =>
          rw [before, Option.some_or] at found
          exact inductionHypothesis (before.trans found)
      | none =>
          rw [before, Option.none_or] at found
          refine ⟨count, by simpa using found, fun earlier isEarlier => ?_⟩
          exact List.findSome?_eq_none_iff.mp before earlier (List.mem_range.mpr isEarlier)

theorem onGrid?_sixteen_ne_none
    (notZero : magnitude ≠ Magnitude.zero) :
    onGrid? tie magnitude (leadingExponent magnitude - (16 : Nat)) ≠ none := by
  have isGrid :
      (seventeenDigits tie magnitude).exponent = leadingExponent magnitude - (16 : Nat) := rfl
  exact onGrid?_ne_none notZero (readsBack_seventeenDigits tie notZero)
    (significantCount_le_of_neighbour isGrid
      (seventeenDigits_isNeighbour tie magnitude).significand)

/-- The chosen digits come from the first grid that has a neighbour which reads back. -/
theorem exists_grid_of_shortest
    (tie : Tie)
    (notZero : magnitude ≠ Magnitude.zero) :
    ∃ more : Nat,
      onGrid? tie magnitude (leadingExponent magnitude - more) =
          some (shortest tie magnitude) ∧
        ∀ fewer : Nat, fewer < more →
          onGrid? tie magnitude (leadingExponent magnitude - fewer) = none := by
  simp only [shortest, notZero, ↓reduceIte, List.findSome?_map]
  cases found :
      (List.range 17).findSome?
        (onGrid? tie magnitude ∘ fun (more : Nat) => leadingExponent magnitude - more) with
  | some scaled =>
      rw [Option.getD_some]
      exact exists_first_of_findSome?_range found
  | none =>
      have nothing := List.findSome?_eq_none_iff.mp found 16 (by decide)
      rw [Function.comp_apply] at nothing
      exact absurd nothing (onGrid?_sixteen_ne_none notZero)

theorem isShortest_zero
    (tie : Tie) :
    IsShortest Magnitude.zero (shortest tie Magnitude.zero) := by
  rw [shortest_zero]
  exact
    { back := by decide
      fewest := by
        intro other _
        have oneDigit : significantCount 0 = 1 := by
          simp [significantCount, significantDigits, digits]
        rw [oneDigit]
        exact significantCount_pos other.significand
      closest := by
        intro other _ _
        have noValue : (Scaled.mk 0 0).value = 0 := by
          simp [Scaled.value]
        rw [noValue, Magnitude.value_zero, sub_self, abs_zero]
        exact abs_nonneg _ }

/-- The chosen digits are the shortest ones. -/
theorem shortest_isShortest
    (tie : Tie)
    (magnitude : Magnitude) :
    IsShortest magnitude (shortest tie magnitude) := by
  by_cases isZero : magnitude = Magnitude.zero
  · rw [isZero]
    exact isShortest_zero tie
  · obtain ⟨more, found, first⟩ := exists_grid_of_shortest tie isZero
    obtain ⟨_, neighbour, back⟩ := onGrid?_eq_some found
    have atMost := significantCount_le_of_neighbour rfl neighbour
    refine ⟨back, fun other otherBack => ?_, fun other otherBack asMany => ?_⟩
    · by_contra fewer
      have positive := significantCount_pos other.significand
      exact onGrid?_ne_none isZero otherBack (Nat.sub_add_cancel positive).ge
        (first (significantCount other.significand - 1) (by omega))
    · exact onGrid?_closest found otherBack
        (value_le_lower_or_upper_le isZero (asMany.trans_le atMost))

end Shortest

end FunctionScript.Decimal
