namespace FunctionScript.Decimal

/-!
# Decimal digits

Digits are numbers below ten, most significant first. Reading digits back is
positional evaluation, writing a number splits off its last digit, and a fixed
width keeps the last digits of a number only.
-/

-- Powers are those of the core library, whatever else is in scope.
attribute [local instance (high)] instPowNat

def ofDigits
    (digits : List Nat) :
    Nat :=
  digits.foldl (fun value digit => 10 * value + digit) 0

/-- The digits of a number without leading zeros; zero has one digit. -/
def digits
    (value : Nat) :
    List Nat :=
  if value < 10 then
    [value]
  else
    digits (value / 10) ++ [value % 10]

/-- How many digits a number has. -/
def length
    (value : Nat) :
    Nat :=
  if value < 10 then
    1
  else
    length (value / 10) + 1

/-- The last `width` digits of a number, with zeros in front where it has fewer. -/
def lastDigits :
    Nat →
    Nat →
    List Nat
  | 0, _ => []
  | width + 1, value => lastDigits width (value / 10) ++ [value % 10]

def digitChar
    (digit : Nat) :
    Char :=
  Char.ofNat (0x30 + digit)

def digitValue
    (character : Char) :
    Nat :=
  character.toNat - 0x30

def natText
    (value : Nat) :
    List Char :=
  (digits value).map digitChar

/-- The characters of an integer: a minus sign only before negative ones. -/
def intText
    (value : Int) :
    List Char :=
  if value < 0 then
    '-' :: natText value.natAbs
  else
    natText value.natAbs

/-- The number that a run of digit characters spells. -/
def readDigits
    (characters : List Char) :
    Nat :=
  ofDigits (characters.map digitValue)

theorem ofDigits_append_singleton
    (front : List Nat)
    (last : Nat) :
    ofDigits (front ++ [last]) = 10 * ofDigits front + last := by
  simp [ofDigits]

/-- Writing a number and reading it back gives the number. -/
theorem ofDigits_digits
    (value : Nat) :
    ofDigits (digits value) = value := by
  induction value using Nat.strongRecOn with
  | ind value inductionHypothesis =>
      rw [digits]
      split
      · simp [ofDigits]
      · rename_i large
        rw [ofDigits_append_singleton, inductionHypothesis (value / 10) (by omega)]
        omega

theorem length_digits
    (value : Nat) :
    (digits value).length = length value := by
  induction value using Nat.strongRecOn with
  | ind value inductionHypothesis =>
      rw [digits, length]
      split
      · rfl
      · rw [List.length_append, inductionHypothesis (value / 10) (by omega)]
        rfl

/-- A fixed width is kept exactly. -/
theorem length_lastDigits
    (width value : Nat) :
    (lastDigits width value).length = width := by
  induction width generalizing value with
  | zero => rfl
  | succ width inductionHypothesis => simp [lastDigits, inductionHypothesis]

/-- The last digits of a number spell its remainder by the power of ten. -/
theorem ofDigits_lastDigits
    (width value : Nat) :
    ofDigits (lastDigits width value) = value % 10 ^ width := by
  induction width generalizing value with
  | zero => simp [lastDigits, ofDigits, Nat.mod_one]
  | succ width inductionHypothesis =>
      rw [lastDigits, ofDigits_append_singleton, inductionHypothesis, Nat.pow_succ',
        Nat.mod_mul]
      omega

end FunctionScript.Decimal
