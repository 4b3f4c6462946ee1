import FunctionScript.Proofs.ShortestReadBack
import FunctionScript.Proofs.ShortestText
import FunctionScript.Script

namespace FunctionScript

/-!
# Texts of a document's numbers

Every number of a document is a finite binary64 number, and its text reads as just that
number, with its sign. So two numbers have the same text only if they are the same. The
text shows an exponent if the first of its digits stands far from the point, and has none
otherwise.
-/

-- Powers are those of the core library, whatever else is in scope.
attribute [local instance (high)] instPowNat

namespace Numeral

open Decimal

variable {text : String}

/-- The shortest text of a number reads as the number. -/
theorem read?_shortest
    (number : Binary64) :
    read? (shortest number) = some number := by
  cases number with
  | nan => decide
  | infinity negative => cases negative <;> decide
  | finite negative magnitude =>
      have back := (shortest_isShortest shortestLayout.tie magnitude).back
      rw [read?_shortest_finite, eq_of_beq back, Option.map_some]

theorem shortest_injective
    {number other : Binary64}
    (sameText : shortest number = shortest other) :
    number = other := by
  have sameNumber := congrArg read? sameText
  rw [read?_shortest, read?_shortest] at sameNumber
  exact Option.some.inj sameNumber

section Exponents

/-- A number without an exponent. -/
def WrittenPlainly
    (text : String) :
    Prop :=
  ∃ form : Form, form.text = text.toList ∧ form.exponent = none

/-- One digit before the point, and an exponent with its sign and at least two digits. -/
def WrittenWithExponent
    (text : String)
    (value : Int) :
    Prop :=
  ∃ (form : Form) (exponent : Exponent),
    form.text = text.toList ∧ form.exponent = some exponent ∧ form.whole.length = 1 ∧
      exponent.sign ≠ .absent ∧ 2 ≤ exponent.digits.length ∧ exponent.value = value

theorem mark_mem_text
    {form : Form}
    {exponent : Exponent}
    (isExponent : form.exponent = some exponent) :
    exponent.mark ∈ form.text := by
  simp [Form.text, Form.unsignedText, isExponent, exponentText?, Exponent.text]

theorem not_mem_text_of_no_exponent
    {form : Form}
    (noExponent : form.exponent = none)
    {mark : Char}
    (isMark : mark = 'e' ∨ mark = 'E') :
    mark ∉ form.text := by
  have noDigit : isDigit mark = false := by
    rcases isMark with rfl | rfl <;> decide
  have notSign : mark ∉ form.sign.text := by
    cases form.sign <;> rcases isMark with rfl | rfl <;> decide
  have notPoint : mark ≠ '.' := by
    rcases isMark with rfl | rfl <;> decide
  have notIn
      {digits : List Nat}
      (small : ∀ digit ∈ digits, digit < 10) :
      mark ∉ digits.map digitChar := by
    intro member
    have isDigit := isDigit_of_mem_map small mark member
    rw [noDigit] at isDigit
    cases isDigit
  have notInFraction : mark ∉ pointText form.fraction := by
    have fractionSmall := form.small_fraction
    cases isFraction : form.fraction with
    | none => exact List.not_mem_nil
    | some digits =>
        rw [isFraction, Option.getD_some] at fractionSmall
        rw [pointText, List.mem_cons, not_or]
        exact ⟨notPoint, notIn fractionSmall⟩
  rw [Form.text, Form.unsignedText, noExponent, exponentText?, List.append_nil]
  simp only [List.mem_append, not_or]
  exact ⟨notSign, notIn form.small_whole, notInFraction⟩

/-- A text with an exponent is not one without. -/
theorem not_writtenPlainly
    {value : Int}
    (withExponent : WrittenWithExponent text value) :
    ¬WrittenPlainly text := by
  rintro ⟨plain, isPlainText, noExponent⟩
  obtain ⟨form, exponent, isText, isExponent, _⟩ := withExponent
  have noMark := not_mem_text_of_no_exponent noExponent exponent.isMark
  rw [isPlainText, ← isText] at noMark
  exact noMark (mark_mem_text isExponent)

/-- Shortest digits are written with an exponent if the first one stands far from the point. -/
theorem writtenWithExponent_or_plainly
    (negative : Bool)
    (magnitude : Magnitude)
    {exponent : Int}
    (isExponent :
      (Decimal.shortest shortestLayout.tie magnitude).leadingExponent = exponent) :
    (exponent < -4 ∨ 6 ≤ exponent) ∧
        WrittenWithExponent (shortest (.finite negative magnitude)) exponent ∨
      ¬(exponent < -4 ∨ 6 ≤ exponent) ∧
        WrittenPlainly (shortest (.finite negative magnitude)) := by
  have isPlain :
      shortestLayout.isPlain exponent ↔ ¬(exponent < -4 ∨ 6 ≤ exponent) := by
    rw [isPlain_shortestLayout]
    omega
  obtain ⟨form, isText, _, demands⟩ :=
    exists_form_text (show shortestLayout.keepsFraction = false from rfl) negative magnitude
  rw [isExponent] at demands
  have isShortest : form.text = (shortest (.finite negative magnitude)).toList := by
    rw [shortest_finite, String.toList_ofList, isText]
  by_cases near : shortestLayout.isPlain exponent
  · exact .inr ⟨isPlain.mp near, form, isShortest, demands.plain near⟩
  · obtain ⟨oneDigit, zeros, isPadded, enough⟩ := demands.marked near
    refine .inl ⟨not_not.mp (mt isPlain.mpr near),
      form, _, isShortest, isPadded, oneDigit, ?_, enough, Exponent.value_padded zeros exponent⟩
    rw [Exponent.padded]
    split <;> simp

end Exponents

/-- The only digit of zero stands in front of the point. -/
theorem ne_zero_of_leadingExponent
    {magnitude : Magnitude}
    (far :
      (Decimal.shortest shortestLayout.tie magnitude).leadingExponent < -4 ∨
        6 ≤ (Decimal.shortest shortestLayout.tie magnitude).leadingExponent) :
    magnitude ≠ Magnitude.zero := by
  rintro rfl
  rw [shortest_zero] at far
  simp [Scaled.leadingExponent, length] at far

end Numeral

theorem Magnitude.pow_mul_unitsPerOne_lt :
    2 ^ (64 : Nat) * unitsPerOne < overflowUnits := by
  have inUnits : 2 ^ (1138 : Nat) = 2 ^ (64 : Nat) * unitsPerOne := by
    rw [unitsPerOne, two_pow_eq_mul (show 1138 = 64 + 1074 from rfl)]
  have powers := @Nat.pow_lt_pow_right 2 1138 2097 (by decide) (by decide)
  rw [← inUnits]
  exact Nat.lt_of_lt_of_le powers pow_le_overflowUnits

namespace Json

/-- A number of a document is finite. -/
theorem Number.exists_toBinary64_eq
    (number : Number) :
    ∃ negative magnitude, number.toBinary64 = .finite negative magnitude := by
  cases number with
  | real negative magnitude => exact ⟨negative, magnitude, rfl⟩
  | integer value inRange =>
      have small : value.natAbs ≤ 2 ^ (64 : Nat) := by omega
      have inUnits : value.natAbs * unitsPerOne < Magnitude.overflowUnits * 1 := by
        rw [Nat.mul_one]
        exact Nat.lt_of_le_of_lt (Nat.mul_le_mul_right unitsPerOne small)
          Magnitude.pow_mul_unitsPerOne_lt
      obtain ⟨magnitude, found⟩ :=
        Option.isSome_iff_exists.mp (Magnitude.isSome_nearest? inUnits)
      refine ⟨decide (value < 0), magnitude, ?_⟩
      rw [toBinary64, Binary64.ofInt, Magnitude.ofNat?, found, Binary64.ofMagnitude?]

/--
The text of a document's number reads as the number itself, and no other number has it.
It shows an exponent exactly if the number's shortest digits begin below `0.0001`, or from
a million on.
-/
theorem number_text_reads_as_itself
    (number : Number) :
    ∃ (negative : Bool) (magnitude : Magnitude) (digits : Decimal.Scaled) (text : String),
      number.toBinary64 = .finite negative magnitude ∧
        scalarText? (.number number) = some text ∧
        Numeral.read? text = some number.toBinary64 ∧
        (∀ other : Number,
          scalarText? (.number other) = some text ↔ other.toBinary64 = number.toBinary64) ∧
        Decimal.IsShortest magnitude digits ∧
        (Numeral.WrittenWithExponent text digits.leadingExponent ↔
          magnitude ≠ Magnitude.zero ∧
            (digits.leadingExponent < -4 ∨ 6 ≤ digits.leadingExponent)) ∧
        (Numeral.WrittenPlainly text ↔
          ¬(magnitude ≠ Magnitude.zero ∧
            (digits.leadingExponent < -4 ∨ 6 ≤ digits.leadingExponent))) := by
  obtain ⟨negative, magnitude, isFinite⟩ := number.exists_toBinary64_eq
  have written :=
    Numeral.writtenWithExponent_or_plainly negative magnitude rfl
  have nonzero := @Numeral.ne_zero_of_leadingExponent magnitude
  refine ⟨negative, magnitude, Decimal.shortest Numeral.shortestLayout.tie magnitude,
    Numeral.shortest number.toBinary64, isFinite, rfl,
    Numeral.read?_shortest _, fun other => ⟨?_, ?_⟩,
    Decimal.shortest_isShortest _ magnitude, ?_, ?_⟩
  · intro sameText
    exact Numeral.shortest_injective (Option.some.inj sameText)
  · intro sameNumber
    rw [scalarText?, sameNumber]
  · rcases written with ⟨far, withExponent⟩ | ⟨notFar, plain⟩
    · exact iff_of_true (isFinite ▸ withExponent) ⟨nonzero far, far⟩
    · refine iff_of_false (fun withExponent => ?_) (fun far => notFar far.2)
      rw [isFinite] at withExponent
      exact Numeral.not_writtenPlainly withExponent plain
  · rcases written with ⟨far, withExponent⟩ | ⟨notFar, plain⟩
    · rw [isFinite]
      exact iff_of_false (Numeral.not_writtenPlainly withExponent)
        (not_not_intro ⟨nonzero far, far⟩)
    · exact iff_of_true (isFinite ▸ plain) (fun far => notFar far.2)

end Json

end FunctionScript
