namespace FunctionScript.Decimal

/-!
# Rounding a quotient to a whole number

Every rounding in this library is one rule: take the nearest whole number of an
exact quotient. Only the choice between two equally near ones differs.
-/

/-- Which of two equally near numbers is taken. -/
inductive Tie where
  /-- The one that is even. -/
  | toEven
  /-- The greater one. -/
  | upward
  deriving DecidableEq, Repr

/-- Whether a tie above `lower` goes to the next number. -/
def Tie.roundsUp
    (tie : Tie)
    (lower : Nat) :
    Bool :=
  match tie with
  | .toEven => lower % 2 == 1
  | .upward => true

/-- The whole number nearest to `numerator / denominator`. -/
def nearest
    (tie : Tie)
    (numerator denominator : Nat) :
    Nat :=
  let lower := numerator / denominator
  let twice := 2 * (numerator % denominator)
  if twice < denominator then
    lower
  else if twice = denominator then
    if tie.roundsUp lower then lower + 1 else lower
  else
    lower + 1

/-- Rounding goes down to the floor or up to the number after it. -/
theorem nearest_eq_or
    (tie : Tie)
    (numerator denominator : Nat) :
    nearest tie numerator denominator = numerator / denominator ∨
      nearest tie numerator denominator = numerator / denominator + 1 := by
  simp only [nearest]
  repeat' split
  all_goals simp

/-- The rounded quotient is within half a unit of the exact one. -/
theorem nearest_within_half
    (tie : Tie)
    (numerator : Nat)
    {denominator : Nat}
    (positive : 0 < denominator) :
    2 * numerator ≤ (2 * nearest tie numerator denominator + 1) * denominator ∧
      2 * nearest tie numerator denominator * denominator ≤
        2 * numerator + denominator := by
  have split := Nat.div_add_mod numerator denominator
  have small := Nat.mod_lt numerator positive
  simp only [nearest]
  generalize numerator / denominator = lower at *
  generalize numerator % denominator = excess at *
  subst split
  have product : denominator * lower = lower * denominator := Nat.mul_comm _ _
  repeat' split
  all_goals
    simp only [Nat.add_mul, Nat.mul_add, Nat.mul_assoc, product] at *
    omega

end FunctionScript.Decimal
