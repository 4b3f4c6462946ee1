import FunctionScript.Proofs.NearestMagnitude

namespace FunctionScript.Decimal

/-!
# The range of shortest digits

The shortest digits of a magnitude are those of one of its neighbours on a decimal
grid of at most seventeen digits. So they stand for a number in range, and the power
of ten of their first digit has few digits itself.
-/

-- Powers are those of the core library, whatever else is in scope.
attribute [local instance (high)] instPowNat

/-- The greatest multiple of a power of ten that is not above a magnitude. -/
def lowerNeighbour
    (magnitude : Magnitude)
    (exponent : Int) :
    Nat :=
  (onGrid magnitude exponent).1 / (onGrid magnitude exponent).2

/-- A decimal number in range, next to a magnitude on a grid of at most seventeen digits. -/
structure IsNeighbour
    (magnitude : Magnitude)
    (scaled : Scaled) :
    Prop where
  greatest : scaled.exponent ≤ leadingExponent magnitude
  least : leadingExponent magnitude - 16 ≤ scaled.exponent
  significand :
    scaled.significand = lowerNeighbour magnitude scaled.exponent ∨
      scaled.significand = lowerNeighbour magnitude scaled.exponent + 1
  inRange : (Magnitude.ofDecimal? scaled.significand scaled.exponent).isSome

variable
  {tie : Tie}
  {magnitude : Magnitude}
  {exponent : Int}
  {scaled : Scaled}

theorem nearest_onGrid
    (tie : Tie)
    (magnitude : Magnitude)
    (exponent : Int) :
    nearest tie (onGrid magnitude exponent).1 (onGrid magnitude exponent).2 =
        lowerNeighbour magnitude exponent ∨
      nearest tie (onGrid magnitude exponent).1 (onGrid magnitude exponent).2 =
        lowerNeighbour magnitude exponent + 1 :=
  nearest_eq_or _ _ _

theorem isSome_of_readsBack
    (back : readsBack magnitude scaled) :
    (Magnitude.ofDecimal? scaled.significand scaled.exponent).isSome := by
  rw [eq_of_beq back]
  rfl

/-- What is taken from a grid is one of the two neighbours there, and reads back. -/
theorem onGrid?_eq_some
    (found : onGrid? tie magnitude exponent = some scaled) :
    scaled.exponent = exponent ∧
      (scaled.significand = lowerNeighbour magnitude exponent ∨
        scaled.significand = lowerNeighbour magnitude exponent + 1) ∧
      readsBack magnitude scaled := by
  have rounded := nearest_onGrid tie magnitude exponent
  simp only [onGrid?] at found
  simp only [lowerNeighbour] at rounded ⊢
  generalize (onGrid magnitude exponent).1 = numerator at *
  generalize (onGrid magnitude exponent).2 = denominator at *
  split at found
  case h_1 lowerBack upperBack =>
    cases found
    rcases rounded with isLower | isUpper
    · exact ⟨rfl, .inl isLower, by rwa [isLower]⟩
    · exact ⟨rfl, .inr isUpper, by rwa [isUpper]⟩
  case h_2 lowerBack _ =>
    cases found
    exact ⟨rfl, .inl rfl, lowerBack⟩
  case h_3 _ upperBack =>
    cases found
    exact ⟨rfl, .inr rfl, upperBack⟩
  case h_4 => cases found

theorem units_lt_pow
    (magnitude : Magnitude) :
    magnitude.units < 10 ^ (309 : Nat) * unitsPerOne := by
  have unitsBelow : magnitude.units < magnitude.units + Magnitude.halfStep :=
    Nat.lt_add_of_pos_right Magnitude.zero_lt_halfStep
  exact Nat.lt_of_lt_of_le (Nat.lt_of_lt_of_le unitsBelow magnitude.units_add_le)
    (@Magnitude.overflowUnits_le 309 (Nat.le_refl 309))

/-- A quotient below a power of ten is below a higher one in units of a later place. -/
theorem div_lt_pow
    {value unit places : Nat}
    (below : value < 10 ^ places * unit)
    (zeros : Nat) :
    value * 10 ^ zeros / unit < 10 ^ (places + zeros) := by
  apply Nat.div_lt_of_lt_mul
  rw [Nat.pow_add, ← Nat.mul_assoc, Nat.mul_comm unit]
  exact Nat.mul_lt_mul_of_pos_right below (Nat.pow_pos (by decide))

theorem leadingExponent_le
    (magnitude : Magnitude) :
    leadingExponent magnitude ≤ 308 := by
  have few := length_le_of_lt_pow (by decide) (div_lt_pow (units_lt_pow magnitude) 324)
  rw [leadingExponent]
  omega

theorem leadingExponent_ge
    (magnitude : Magnitude) :
    -324 ≤ leadingExponent magnitude := by
  have some := length_pos (magnitude.units * 10 ^ (324 : Nat) / unitsPerOne)
  rw [leadingExponent]
  omega

theorem seventeenDigits_isNeighbour
    (tie : Tie)
    (magnitude : Magnitude) :
    IsNeighbour magnitude (seventeenDigits tie magnitude) := by
  have fine : leadingExponent magnitude - 16 ≤ 292 := by
    have := leadingExponent_le magnitude
    omega
  have rounded := nearest_onGrid tie magnitude (leadingExponent magnitude - 16)
  have inRange := isSome_ofDecimal?_onGrid tie magnitude fine
  simp only [seventeenDigits]
  generalize
    nearest tie (onGrid magnitude (leadingExponent magnitude - 16)).1
      (onGrid magnitude (leadingExponent magnitude - 16)).2 = significand at *
  exact ⟨Int.sub_le_self _ (by decide), Int.le_refl _, rounded, inRange⟩

/-- The shortest digits of a positive magnitude are those of a neighbour. -/
theorem shortest_isNeighbour
    (tie : Tie)
    (notZero : magnitude ≠ Magnitude.zero) :
    IsNeighbour magnitude (shortest tie magnitude) := by
  simp only [shortest, notZero, ↓reduceIte]
  cases found :
      ((List.range 17).map fun (more : Nat) =>
        leadingExponent magnitude - more).findSome? (onGrid? tie magnitude) with
  | some scaled =>
      obtain ⟨exponent, isGrid, taken⟩ := List.exists_of_findSome?_eq_some found
      obtain ⟨more, few, rfl⟩ := List.mem_map.mp isGrid
      have atMost := List.mem_range.mp few
      obtain ⟨sameExponent, significand, back⟩ := onGrid?_eq_some taken
      rw [← sameExponent] at significand
      rw [Option.getD_some]
      exact ⟨by omega, by omega, significand, isSome_of_readsBack back⟩
  | none => exact seventeenDigits_isNeighbour tie magnitude

theorem lowerNeighbour_lt
    (magnitude : Magnitude)
    (exponent : Int) :
    lowerNeighbour magnitude exponent < 10 ^ (309 + (-exponent).toNat) := by
  refine Nat.lt_of_le_of_lt ?_ (div_lt_pow (units_lt_pow magnitude) (-exponent).toNat)
  exact Nat.div_le_div_left (Nat.le_mul_of_pos_right _ (Nat.pow_pos (by decide)))
    Magnitude.zero_lt_unitsPerOne

namespace IsNeighbour

/-- The first digit of a neighbour stands at a power of ten with at most four digits. -/
theorem natAbs_leadingExponent_lt
    (neighbour : IsNeighbour magnitude scaled) :
    scaled.leadingExponent.natAbs < 10000 := by
  have leadingLe := leadingExponent_le magnitude
  have leadingGe := leadingExponent_ge magnitude
  have lower := lowerNeighbour_lt magnitude scaled.exponent
  have significandLt :
      scaled.significand < 10 ^ (309 + (-scaled.exponent).toNat + 1) := by
    rw [Nat.pow_succ]
    rcases neighbour.significand with isLower | isUpper <;> omega
  have few := length_le_of_lt_pow (Nat.succ_pos _) significandLt
  have positive := length_pos scaled.significand
  have greatest := neighbour.greatest
  have least := neighbour.least
  rw [Scaled.leadingExponent]
  omega

end IsNeighbour

theorem shortest_zero
    (tie : Tie) :
    shortest tie Magnitude.zero = ⟨0, 0⟩ := by
  simp [shortest]

/-- Shortest digits stand for a number in range. -/
theorem isSome_shortest
    (tie : Tie)
    (magnitude : Magnitude) :
    (Magnitude.ofDecimal? (shortest tie magnitude).significand
      (shortest tie magnitude).exponent).isSome := by
  by_cases isZero : magnitude = Magnitude.zero
  · simp [isZero, shortest_zero, Magnitude.ofDecimal?]
  · exact (shortest_isNeighbour tie isZero).inRange

theorem natAbs_leadingExponent_shortest_lt
    (tie : Tie)
    (magnitude : Magnitude) :
    (shortest tie magnitude).leadingExponent.natAbs < 10000 := by
  by_cases isZero : magnitude = Magnitude.zero
  · simp [isZero, shortest_zero, Scaled.leadingExponent, length]
  · exact (shortest_isNeighbour tie isZero).natAbs_leadingExponent_lt

end FunctionScript.Decimal
