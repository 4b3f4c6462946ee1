import FunctionScript.Json.Fault

namespace FunctionScript.Json

/-!
# Reading numbers of a document

An integer that fits 64 bits stays an integer. Any other number becomes a binary64
number by a rule that is fast and not always the nearest: as many digits as fit
64 bits are collected, the digits left out of the whole part and the digits taken
from the fraction shift the exponent, and the collected digits are multiplied or
divided once by a power of ten.

A minus sign before zero makes a negative zero, which is not an integer.
-/

-- Powers are those of the core library, whatever else is in scope.
attribute [local instance (high)] instPowNat

def isDigit
    (byte : UInt8) :
    Bool :=
  0x30 ≤ byte && byte ≤ 0x39

def digitValue
    (byte : UInt8) :
    Nat :=
  byte.toNat - 0x30

/-- A significand below `2 ^ 64` and the power of ten that goes with it. -/
structure Collected where
  significand : Nat
  exponent : Int
  deriving DecidableEq, Repr

/-- Whether a significand can take one more digit. -/
def Collected.fits
    (collected : Collected)
    (digit : Nat) :
    Bool :=
  collected.significand * 10 + digit < 2 ^ (64 : Nat)

/-- Collect digits of the whole part; from the first that does not fit on, each counts as a zero. -/
def collectWhole
    (collected : Collected) :
    List Nat →
    Collected
  | [] => collected
  | digit :: rest =>
      if collected.fits digit then
        collectWhole { collected with significand := collected.significand * 10 + digit } rest
      else
        { collected with exponent := collected.exponent + (rest.length + 1) }

/-- Collect digits of the fraction; from the first that does not fit on, all are left out. -/
def collectFraction
    (collected : Collected) :
    List Nat →
    Collected
  | [] => collected
  | digit :: rest =>
      if collected.fits digit then
        collectFraction
          ⟨collected.significand * 10 + digit, collected.exponent - 1⟩ rest
      else
        collected

/-- The nearest binary64 number of a power of ten that has one. -/
def powerOfTen
    (exponent : Nat) :
    Binary64 :=
  Binary64.ofMagnitude? false (Magnitude.ofDecimal? 1 exponent)

/-- Divide by ten to the 308th as long as the exponent asks for more than that and digits are left. -/
def scaleDown
    (number : Binary64)
    (exponent : Int) :
    Binary64 :=
  if number = .zero false then
    number
  else if exponent < -308 then
    scaleDown (number.div (powerOfTen 308)) (exponent + 308)
  else
    number.div (powerOfTen (-exponent).toNat)
termination_by (-exponent).toNat

/-- The collected digits as a number; without one if it is too large. -/
def Collected.magnitude?
    (collected : Collected) :
    Option Magnitude :=
  let digits := Binary64.ofInt collected.significand
  let scaled :=
    if collected.exponent < 0 then
      scaleDown digits collected.exponent
    else if collected.significand = 0 then
      digits
    else if 308 < collected.exponent then
      .infinity false
    else
      digits.mul (powerOfTen collected.exponent.toNat)
  match scaled with
  | .finite _ magnitude => some magnitude
  | _ => none

/-- The greatest exponent that is read to its end. -/
def greatestExponent : Nat :=
  2 ^ (31 : Nat) - 1

/-- What became of the digits of an exponent. -/
inductive ExponentDigits where
  /-- All digits were read, and these bytes follow. -/
  | complete (value : Nat) (rest : List UInt8)
  /-- A digit led beyond the greatest exponent, and these bytes follow it. -/
  | tooLarge (rest : List UInt8)

def readExponentDigits
    (value : Nat) :
    List UInt8 →
    ExponentDigits
  | [] => .complete value []
  | byte :: rest =>
      if isDigit byte then
        let next := value * 10 + digitValue byte
        if greatestExponent < next then
          .tooLarge rest
        else
          readExponentDigits next rest
      else
        .complete value (byte :: rest)

def splitExponentSign :
    List UInt8 →
    Bool × List UInt8
  | 0x2B :: rest => (false, rest)
  | 0x2D :: rest => (true, rest)
  | rest => (false, rest)

/-- The number of collected digits, or the fault that it is too large, noticed at `rest`. -/
def realNumber
    (negative : Bool)
    (collected : Collected)
    (rest : List UInt8) :
    Except Halt (Number × List UInt8) :=
  match collected.magnitude? with
  | some magnitude => .ok (.real negative magnitude, rest)
  | none => .error (.including .numberOutOfRange rest)

def readExponent
    (negative : Bool)
    (collected : Collected)
    (bytes : List UInt8) :
    Except Halt (Number × List UInt8) :=
  let (downward, unsigned) := splitExponentSign bytes
  match unsigned with
  | [] => .error (.upTo .endInValue [])
  | first :: following =>
      if isDigit first then
        match readExponentDigits (digitValue first) following with
        | .complete value rest =>
            let exponent :=
              if downward then collected.exponent - value else collected.exponent + value
            realNumber negative { collected with exponent := exponent } rest
        | .tooLarge rest =>
            if collected.significand ≠ 0 ∧ ¬downward then
              .error (.upTo .numberOutOfRange rest)
            else
              .ok (.real negative .zero, rest.dropWhile isDigit)
      else
        .error (.upTo .invalidNumber following)

/-- Read the exponent, if there is one, and finish a number that is not an integer. -/
def finishReal
    (negative : Bool)
    (collected : Collected) :
    List UInt8 →
    Except Halt (Number × List UInt8)
  | 0x65 :: rest => readExponent negative collected rest
  | 0x45 :: rest => readExponent negative collected rest
  | rest => realNumber negative collected rest

/-- The integer of the given sign and digits, or without one the nearest number that is not. -/
def wholeNumber
    (negative : Bool)
    (value : Nat) :
    Number :=
  let signed : Int := if negative then -(value : Int) else value
  if inRange : (-(2 ^ (63 : Nat)) ≤ signed ∧ signed < 2 ^ (64 : Nat)) ∧ ¬(negative ∧ value = 0) then
    .integer signed inRange.1
  else
    .real negative ((Magnitude.ofNat? value).getD .zero)

/-- Read the fraction after its point, and what follows it. -/
def readFraction
    (negative : Bool)
    (collected : Collected)
    (bytes : List UInt8) :
    Except Halt (Number × List UInt8) :=
  match bytes with
  | [] => .error (.upTo .endInValue [])
  | first :: following =>
      if isDigit first then
        let digits := first :: following.takeWhile isDigit
        finishReal negative
          (collectFraction collected (digits.map digitValue))
          (following.dropWhile isDigit)
      else
        .error (.upTo .invalidNumber following)

/-- Read what follows the digits of the whole part. -/
def finishNumber
    (negative : Bool)
    (collected : Collected) :
    List UInt8 →
    Except Halt (Number × List UInt8)
  | 0x2E :: rest => readFraction negative collected rest
  | 0x65 :: rest => readExponent negative collected rest
  | 0x45 :: rest => readExponent negative collected rest
  | rest =>
      if collected.exponent = 0 then
        .ok (wholeNumber negative collected.significand, rest)
      else
        realNumber negative collected rest

/-- Read a number after its sign; no digit may follow a zero in front. -/
def readUnsigned
    (negative : Bool)
    (bytes : List UInt8) :
    Except Halt (Number × List UInt8) :=
  match bytes with
  | [] => .error (.upTo .endInValue [])
  | first :: following =>
      if !isDigit first then
        .error (.upTo .invalidNumber following)
      else if first = 0x30 ∧ following.head?.any isDigit then
        .error (.including .invalidNumber following)
      else
        let digits := first :: following.takeWhile isDigit
        finishNumber negative
          (collectWhole ⟨0, 0⟩ (digits.map digitValue))
          (following.dropWhile isDigit)

def readNumber :
    List UInt8 →
    Except Halt (Number × List UInt8)
  | 0x2D :: rest => readUnsigned true rest
  | bytes => readUnsigned false bytes

theorem length_dropWhile_le
    (keep : UInt8 → Bool)
    (bytes : List UInt8) :
    (bytes.dropWhile keep).length ≤ bytes.length :=
  (List.dropWhile_suffix keep).length_le

theorem realNumber_rest
    {negative : Bool}
    {collected : Collected}
    {bytes rest : List UInt8}
    {number : Number}
    (read : realNumber negative collected bytes = .ok (number, rest)) :
    rest = bytes := by
  unfold realNumber at read
  split at read
  · cases read
    rfl
  · cases read

theorem readExponentDigits_le
    (value : Nat)
    (bytes : List UInt8) :
    match readExponentDigits value bytes with
    | .complete _ rest => rest.length ≤ bytes.length
    | .tooLarge rest => rest.length ≤ bytes.length := by
  fun_induction readExponentDigits value bytes with
  | case1 => simp
  | case2 => simp
  | case3 value byte rest _ next _ inductionHypothesis =>
      simp only [List.length_cons]
      split at inductionHypothesis <;> omega
  | case4 => simp

theorem splitExponentSign_le
    (bytes : List UInt8) :
    (splitExponentSign bytes).2.length ≤ bytes.length := by
  unfold splitExponentSign
  split <;> simp

/-- An exponent leaves fewer bytes. -/
theorem readExponent_shorter
    {negative : Bool}
    {collected : Collected}
    {bytes rest : List UInt8}
    {number : Number}
    (read : readExponent negative collected bytes = .ok (number, rest)) :
    rest.length < bytes.length := by
  have signed := splitExponentSign_le bytes
  unfold readExponent at read
  simp only at read
  split at read
  · cases read
  · rename_i unsigned first following split
    rw [split, List.length_cons] at signed
    split at read
    · have digits := readExponentDigits_le (digitValue first) following
      split at read
      · rename_i value after complete
        rw [complete] at digits
        have same := realNumber_rest read
        subst same
        simp only at digits
        omega
      · rename_i after tooLarge
        rw [tooLarge] at digits
        split at read
        · cases read
        · simp only [Except.ok.injEq, Prod.mk.injEq] at read
          have skipped := length_dropWhile_le isDigit after
          rw [← read.2]
          simp only at digits
          omega
    · cases read

theorem finishReal_le
    {negative : Bool}
    {collected : Collected}
    {bytes rest : List UInt8}
    {number : Number}
    (read : finishReal negative collected bytes = .ok (number, rest)) :
    rest.length ≤ bytes.length := by
  unfold finishReal at read
  split at read
  · have shorter := readExponent_shorter read
    simp only [List.length_cons]
    omega
  · have shorter := readExponent_shorter read
    simp only [List.length_cons]
    omega
  · exact Nat.le_of_eq (congrArg List.length (realNumber_rest read))

theorem readFraction_shorter
    {negative : Bool}
    {collected : Collected}
    {bytes rest : List UInt8}
    {number : Number}
    (read : readFraction negative collected bytes = .ok (number, rest)) :
    rest.length < bytes.length := by
  unfold readFraction at read
  split at read
  · cases read
  · rename_i first following
    split at read
    · have finished := finishReal_le read
      have skipped := length_dropWhile_le isDigit following
      simp only [List.length_cons]
      omega
    · cases read

theorem finishNumber_le
    {negative : Bool}
    {collected : Collected}
    {bytes rest : List UInt8}
    {number : Number}
    (read : finishNumber negative collected bytes = .ok (number, rest)) :
    rest.length ≤ bytes.length := by
  unfold finishNumber at read
  split at read
  · have shorter := readFraction_shorter read
    simp only [List.length_cons]
    omega
  · have shorter := readExponent_shorter read
    simp only [List.length_cons]
    omega
  · have shorter := readExponent_shorter read
    simp only [List.length_cons]
    omega
  · split at read
    · simp only [Except.ok.injEq, Prod.mk.injEq] at read
      exact Nat.le_of_eq (congrArg List.length read.2.symm)
    · exact Nat.le_of_eq (congrArg List.length (realNumber_rest read))

/-- A number after its sign leaves fewer bytes. -/
theorem readUnsigned_shorter
    {negative : Bool}
    {bytes rest : List UInt8}
    {number : Number}
    (read : readUnsigned negative bytes = .ok (number, rest)) :
    rest.length < bytes.length := by
  unfold readUnsigned at read
  split at read
  · cases read
  · rename_i first following
    split at read
    · cases read
    · split at read
      · cases read
      · have finished := finishNumber_le read
        have skipped := length_dropWhile_le isDigit following
        simp only [List.length_cons]
        omega

/-- A number leaves fewer bytes. -/
theorem readNumber_shorter
    {bytes rest : List UInt8}
    {number : Number}
    (read : readNumber bytes = .ok (number, rest)) :
    rest.length < bytes.length := by
  unfold readNumber at read
  split at read
  · have shorter := readUnsigned_shorter read
    simp only [List.length_cons]
    omega
  · exact readUnsigned_shorter read

end FunctionScript.Json
