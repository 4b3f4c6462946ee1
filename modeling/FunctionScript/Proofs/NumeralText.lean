import Mathlib.Data.List.Induction
import FunctionScript.Json.Basic
import FunctionScript.Numeral
import FunctionScript.Proofs.NumeralGrammar
import FunctionScript.Proofs.RangeCheck
import FunctionScript.Proofs.ShortestDigits

namespace FunctionScript

/-!
# Texts of numbers are numeric

What is written for a number reads as a number: with fixed places, plainly, or with
an exponent, the characters spell a decimal number, and the one that they spell is
the one that was rounded to. Rounding never leads out of range, so every result of
arithmetic and every number of a document has a numeric text.
-/

-- Powers are those of the core library, whatever else is in scope.
attribute [local instance (high)] instPowNat

namespace Decimal

section Digits

theorem small_digits
    (value : Nat) :
    ∀ digit ∈ digits value, digit < 10 := by
  induction value using Nat.strongRecOn with
  | ind value inductionHypothesis =>
      intro digit member
      rw [digits] at member
      split at member
      · rename_i small
        rwa [List.mem_singleton.mp member]
      · rcases List.mem_append.mp member with inFront | isLast
        · exact inductionHypothesis (value / 10) (by omega) digit inFront
        · rw [List.mem_singleton.mp isLast]
          omega

theorem small_lastDigits
    (width value : Nat) :
    ∀ digit ∈ lastDigits width value, digit < 10 := by
  induction width generalizing value with
  | zero =>
      intro digit member
      cases member
  | succ width inductionHypothesis =>
      intro digit member
      rcases List.mem_append.mp member with inFront | isLast
      · exact inductionHypothesis (value / 10) digit inFront
      · rw [List.mem_singleton.mp isLast]
        omega

theorem small_replicate_zero
    (zeros : Nat) :
    ∀ digit ∈ List.replicate zeros 0, digit < 10 := by
  intro digit isZero
  rw [List.eq_of_mem_replicate isZero]
  decide

theorem small_append
    {front back : List Nat}
    (frontSmall : ∀ digit ∈ front, digit < 10)
    (backSmall : ∀ digit ∈ back, digit < 10) :
    ∀ digit ∈ front ++ back, digit < 10 := by
  intro digit member
  rcases List.mem_append.mp member with inFront | inBack
  · exact frontSmall digit inFront
  · exact backSmall digit inBack

theorem small_of_sublist
    {digits others : List Nat}
    (small : ∀ digit ∈ digits, digit < 10)
    (isSublist : others.Sublist digits) :
    ∀ digit ∈ others, digit < 10 :=
  fun digit member => small digit (isSublist.subset member)

theorem digits_ne_nil
    (value : Nat) :
    digits value ≠ [] := by
  rw [digits]
  split <;> simp

/-- Digits in front count for as many places more as there are digits behind them. -/
theorem ofDigits_append
    (front back : List Nat) :
    ofDigits (front ++ back) = ofDigits front * 10 ^ back.length + ofDigits back := by
  induction back using List.reverseRecOn with
  | nil => simp [ofDigits]
  | append_singleton back last inductionHypothesis =>
      rw [← List.append_assoc, ofDigits_append_singleton, ofDigits_append_singleton,
        inductionHypothesis, List.length_append, List.length_singleton, Nat.pow_succ]
      grind

theorem ofDigits_replicate_zero
    (zeros : Nat) :
    ofDigits (List.replicate zeros 0) = 0 := by
  induction zeros with
  | zero => rfl
  | succ zeros inductionHypothesis =>
      rw [List.replicate_succ', ofDigits_append_singleton, inductionHypothesis]

theorem ofDigits_zeros_append
    (zeros : Nat)
    (digits : List Nat) :
    ofDigits (List.replicate zeros 0 ++ digits) = ofDigits digits := by
  rw [ofDigits_append, ofDigits_replicate_zero]
  simp

end Digits

section Exponents

theorem Exponent.isMark_small :
    'e' = 'e' ∨ 'e' = 'E' :=
  .inl rfl

/-- An exponent with its sign, and with zeros in front of its digits. -/
def Exponent.padded
    (zeros : Nat)
    (exponent : Int) :
    Exponent where
  mark := 'e'
  sign := if exponent < 0 then .minus else .plus
  digits := List.replicate zeros 0 ++ Decimal.digits exponent.natAbs
  isMark := Exponent.isMark_small
  small := small_append (small_replicate_zero zeros) (small_digits _)
  notEmpty := by simp [digits_ne_nil]

theorem Exponent.text_padded
    (zeros : Nat)
    (exponent : Int) :
    (padded zeros exponent).text =
      'e' :: (if exponent < 0 then '-' else '+') ::
        (List.replicate zeros '0' ++ natText exponent.natAbs) := by
  have digitsText :
      (List.replicate zeros 0 ++ Decimal.digits exponent.natAbs).map digitChar =
        List.replicate zeros '0' ++ natText exponent.natAbs := by
    rw [List.map_append, List.map_replicate]
    rfl
  simp only [text, padded, digitsText]
  split <;> rfl

theorem Exponent.size_padded
    (zeros : Nat)
    (exponent : Int) :
    (padded zeros exponent).size = exponent.natAbs := by
  rw [size, padded, ofDigits_zeros_append, ofDigits_digits]

/-- Zeros in front of an exponent do not change it. -/
theorem Exponent.value_padded
    (zeros : Nat)
    (exponent : Int) :
    (padded zeros exponent).value = exponent := by
  rw [value, size_padded]
  by_cases negative : exponent < 0
  · have isMinus : (padded zeros exponent).sign = .minus := if_pos negative
    rw [isMinus, Sign.applied_minus]
    omega
  · have isPlus : (padded zeros exponent).sign = .plus := if_neg negative
    rw [isPlus, Sign.applied_plus]
    omega

end Exponents

section Texts

variable
  {negative : Bool}
  {digits whole fraction : List Nat}
  {significand : Nat}
  {exponent : Int}

/-- The form of a decimal number, perhaps with more zeros at the end of its digits than it has. -/
structure Form.Writes
    (form : Form)
    (negative : Bool)
    (significand : Nat)
    (exponent : Int) :
    Prop where
  isNegative : form.sign.isNegative = negative
  digits :
    ∃ zeros : Nat,
      form.significand = significand * 10 ^ zeros ∧ form.lastExponent = exponent - zeros

/-- The text of a decimal number reads as what the number is rounded to. -/
theorem Form.Writes.value?
    {form : Form}
    (writes : form.Writes negative significand exponent) :
    (readLiteral? form.text).bind Literal.value? =
      (Magnitude.ofDecimal? significand exponent).map (.finite negative) := by
  obtain ⟨zeros, sameDigits, sameExponent⟩ := writes.digits
  rw [readLiteral?_text, Option.bind_some, Literal.value?, writes.isNegative, sameDigits,
    sameExponent, Magnitude.ofDecimal?_mul_pow, Int.sub_add_cancel]

/-- A minus sign only before negative numbers, and a point only before digits. -/
def Form.ofDigits
    (negative : Bool)
    (whole fraction : List Nat)
    (exponent : Option Exponent)
    (small : ∀ digit ∈ whole ++ fraction, digit < 10)
    (notEmpty : whole ≠ []) :
    Form where
  sign := if negative then .minus else .absent
  whole := whole
  fraction := if fraction = [] then none else some fraction
  exponent := exponent
  small := by
    intro digit member
    split at member
    · exact small digit (List.mem_append_left _ (by simpa using member))
    · exact small digit member
  notEmpty := by simp [notEmpty]

theorem Form.text_ofDigits
    (negative : Bool)
    (exponent : Option Exponent)
    (small : ∀ digit ∈ whole ++ fraction, digit < 10)
    (notEmpty : whole ≠ []) :
    (ofDigits negative whole fraction exponent small notEmpty).text =
      signText negative ++
        (whole.map digitChar ++ (fractionText false fraction ++ exponentText? exponent)) := by
  cases negative <;> cases fraction <;> rfl

theorem Form.writes_ofDigits
    (negative : Bool)
    {written : Option Exponent}
    (small : ∀ digit ∈ whole ++ fraction, digit < 10)
    (notEmpty : whole ≠ [])
    {zeros : Nat}
    (value : Decimal.ofDigits (whole ++ fraction) = significand * 10 ^ zeros)
    (place : countedExponent written - fraction.length = exponent - zeros) :
    (ofDigits negative whole fraction written small notEmpty).Writes
      negative significand exponent where
  isNegative := by cases negative <;> rfl
  digits := by
    refine ⟨zeros, ?_, ?_⟩
    · rw [← value, Form.significand, Form.digits, ofDigits]
      cases fraction <;> rfl
    · rw [← place, Form.lastExponent, Form.places, ofDigits]
      cases fraction <;> rfl

/-- Fixed places spell the number of units of the last place. -/
theorem exists_form_pointed
    (negative : Bool)
    {places : Nat}
    (positive : 0 < places)
    (value : Nat) :
    ∃ form : Form,
      form.text = signText negative ++ pointed places value ∧
        form.Writes negative value (-places) := by
  have shape :
      pointed places value =
        (Decimal.digits (value / 10 ^ places)).map digitChar ++
          (fractionText false (lastDigits places value) ++ exponentText? none) := by
    cases found : lastDigits places value with
    | nil =>
        have := length_lastDigits places value
        simp [found] at this
        omega
    | cons first others =>
        rw [exponentText?, List.append_nil, pointed, found]
        rfl
  rw [shape]
  refine ⟨_,
    Form.text_ofDigits negative none
      (small_append (small_digits _) (small_lastDigits _ _)) (digits_ne_nil _),
    @Form.writes_ofDigits _ _ value (-places) negative none _ _ 0 ?_ ?_⟩
  · rw [ofDigits_append, ofDigits_digits, ofDigits_lastDigits, length_lastDigits]
    have := Nat.div_add_mod value (10 ^ places)
    rw [Nat.mul_comm] at this
    simpa using this
  · rw [length_lastDigits, countedExponent]
    simp

/-- A number below one is written with zeros after the point. -/
theorem exists_form_plainText_of_neg
    (negative : Bool)
    (small : ∀ digit ∈ digits, digit < 10)
    (isNegative : exponent < 0) :
    ∃ form : Form,
      form.text = signText negative ++ plainText false digits exponent ∧
        form.exponent = none ∧
        form.Writes negative (ofDigits digits) (exponent + 1 - digits.length) := by
  rw [plainText, if_pos isNegative]
  generalize isZeros : (-exponent - 1).toNat = zeros
  have allSmall :=
    small_append (show ∀ digit ∈ [0], digit < 10 by decide)
      (small_append (small_replicate_zero zeros) small)
  have value :
      ofDigits ([0] ++ (List.replicate zeros 0 ++ digits)) =
        ofDigits digits * 10 ^ (0 : Nat) := by
    rw [← List.replicate_one, ofDigits_zeros_append, ofDigits_zeros_append]
    simp
  have text :=
    Form.text_ofDigits negative none allSmall (by decide)
  rw [exponentText?, List.append_nil] at text
  refine ⟨_, text, rfl, Form.writes_ofDigits negative allSmall (by decide) value ?_⟩
  rw [List.length_append, List.length_replicate, countedExponent, Option.elim_none]
  omega

/-- A number from one on is written with the point among its digits, or with zeros behind them. -/
theorem exists_form_plainText_of_nonneg
    (negative : Bool)
    (small : ∀ digit ∈ digits, digit < 10)
    (notEmpty : digits ≠ [])
    (nonneg : ¬exponent < 0) :
    ∃ form : Form,
      form.text = signText negative ++ plainText false digits exponent ∧
        form.exponent = none ∧
        form.Writes negative (ofDigits digits) (exponent + 1 - digits.length) := by
  simp only [plainText, if_neg nonneg]
  generalize isWhole : exponent.toNat + 1 = whole
  have allSmall :=
    small_append
      (small_append (small_of_sublist small (List.take_sublist whole _))
        (small_replicate_zero (whole - digits.length)))
      (small_of_sublist small (List.drop_sublist whole _))
  have value :
      ofDigits (digits.take whole ++ List.replicate (whole - digits.length) 0 ++
          digits.drop whole) =
        ofDigits digits * 10 ^ (whole - digits.length) := by
    rcases Nat.le_total digits.length whole with short | long
    · rw [List.take_of_length_le short, List.drop_of_length_le short, List.append_nil,
        ofDigits_append, ofDigits_replicate_zero, List.length_replicate, Nat.add_zero]
    · rw [Nat.sub_eq_zero_of_le long, List.replicate_zero, List.append_nil,
        List.take_append_drop]
      simp
  have wholeNotEmpty :
      digits.take whole ++ List.replicate (whole - digits.length) 0 ≠ [] := by
    intro isEmpty
    have noTake := List.take_eq_nil_iff.mp (List.append_eq_nil_iff.mp isEmpty).1
    rcases noTake with isZero | noDigits
    · omega
    · exact notEmpty noDigits
  have text := Form.text_ofDigits negative none allSmall wholeNotEmpty
  rw [exponentText?, List.append_nil] at text
  refine ⟨_, text, rfl, Form.writes_ofDigits negative allSmall wholeNotEmpty value ?_⟩
  rw [List.length_drop, countedExponent, Option.elim_none]
  omega

/-- Without an exponent, digits spell the number whose first digit stands where the text says. -/
theorem exists_form_plainText
    (negative : Bool)
    (small : ∀ digit ∈ digits, digit < 10)
    (notEmpty : digits ≠ [])
    (exponent : Int) :
    ∃ form : Form,
      form.text = signText negative ++ plainText false digits exponent ∧
        form.exponent = none ∧
        form.Writes negative (ofDigits digits) (exponent + 1 - digits.length) := by
  by_cases isNegative : exponent < 0
  · exact exists_form_plainText_of_neg negative small isNegative
  · exact exists_form_plainText_of_nonneg negative small notEmpty isNegative

/-- With an exponent, digits spell the number whose first digit stands there. -/
theorem exists_form_exponentText
    (negative : Bool)
    (small : ∀ digit ∈ digits, digit < 10)
    (notEmpty : digits ≠ [])
    (width : Nat)
    (below : exponent.natAbs < exponentLimit) :
    ∃ form : Form,
      form.text = signText negative ++ exponentText width digits exponent ∧
        form.whole.length = 1 ∧
        form.exponent =
          some (.padded (width - (natText exponent.natAbs).length) exponent) ∧
        form.Writes negative (ofDigits digits) (exponent + 1 - digits.length) := by
  generalize isZeros : width - (natText exponent.natAbs).length = zeros
  have positive := List.length_pos_iff.mpr notEmpty
  have allSmall : ∀ digit ∈ digits.take 1 ++ digits.drop 1, digit < 10 := by
    rwa [List.take_append_drop]
  have value :
      ofDigits (digits.take 1 ++ digits.drop 1) = ofDigits digits * 10 ^ (0 : Nat) := by
    rw [List.take_append_drop]
    simp
  have firstNotEmpty : digits.take 1 ≠ [] := by
    simpa using notEmpty
  have counted : (Exponent.padded zeros exponent).counted = exponent := by
    rw [Exponent.counted_eq_value (by rw [Exponent.size_padded]; omega),
      Exponent.value_padded]
  have text :=
    Form.text_ofDigits negative (some (.padded zeros exponent)) allSmall firstNotEmpty
  refine ⟨_, ?_, ?_, rfl, Form.writes_ofDigits negative allSmall firstNotEmpty value ?_⟩
  · rw [text, exponentText?, Exponent.text_padded, exponentText, isZeros]
    simp only [List.append_assoc, List.cons_append, List.nil_append]
  · rw [Form.ofDigits, List.length_take]
    omega
  · rw [List.length_drop, countedExponent, Option.elim_some, counted]
    omega

end Texts

section Shortest

/-- The digits of a significand are its significant ones with zeros behind them. -/
theorem exists_digits_eq
    (significand : Nat) :
    ∃ zeros,
      digits significand = significantDigits significand ++ List.replicate zeros 0 := by
  have zerosBehind :
      digits significand =
        ((digits significand).reverse.dropWhile (· == 0)).reverse ++
          List.replicate ((digits significand).reverse.takeWhile (· == 0)).length 0 := by
    have allZero :
        (digits significand).reverse.takeWhile (· == 0) =
          List.replicate ((digits significand).reverse.takeWhile (· == 0)).length 0 := by
      apply List.eq_replicate_of_mem
      intro digit member
      exact eq_of_beq (List.all_eq_true.mp List.all_takeWhile digit member)
    rw [← List.reverse_replicate, ← allZero, ← List.reverse_append,
      List.takeWhile_append_dropWhile, List.reverse_reverse]
  rw [significantDigits]
  split
  · rename_i noDigit
    -- All digits are zeros, so there is one, and it is the one that stays.
    rw [noDigit, List.reverse_nil, List.nil_append] at zerosBehind
    have isZero : significand = 0 := by
      rw [← ofDigits_digits significand, zerosBehind, ofDigits_replicate_zero]
    exact ⟨0, by simp [isZero, digits]⟩
  · exact ⟨_, zerosBehind⟩

/-- The zeros at the end of a significand count as places. -/
theorem exists_zeros_significantDigits
    (significand : Nat) :
    ∃ zeros,
      significand = ofDigits (significantDigits significand) * 10 ^ zeros ∧
        length significand = (significantDigits significand).length + zeros := by
  obtain ⟨zeros, split⟩ := exists_digits_eq significand
  have value := ofDigits_digits significand
  have places := length_digits significand
  rw [split, ofDigits_append, ofDigits_replicate_zero, List.length_replicate,
    Nat.add_zero] at value
  rw [split, List.length_append, List.length_replicate] at places
  exact ⟨zeros, value.symm, places.symm⟩

theorem small_significantDigits
    (significand : Nat) :
    ∀ digit ∈ significantDigits significand, digit < 10 := by
  obtain ⟨zeros, split⟩ := exists_digits_eq significand
  intro digit member
  apply small_digits significand
  rw [split]
  exact List.mem_append_left _ member

theorem significantDigits_ne_nil
    (significand : Nat) :
    significantDigits significand ≠ [] := by
  rw [significantDigits]
  split
  · simp
  · rename_i notEmpty
    simpa using notEmpty

/-- A decimal number is the one of its significant digits. -/
theorem ofDecimal?_significantDigits
    (scaled : Scaled) :
    Magnitude.ofDecimal? (ofDigits (significantDigits scaled.significand))
        (scaled.leadingExponent + 1 - (significantDigits scaled.significand).length) =
      Magnitude.ofDecimal? scaled.significand scaled.exponent := by
  obtain ⟨zeros, value, places⟩ := exists_zeros_significantDigits scaled.significand
  have sameExponent :
      scaled.leadingExponent + 1 - (significantDigits scaled.significand).length =
        scaled.exponent + zeros := by
    rw [Scaled.leadingExponent]
    omega
  conv => rhs; rw [value]
  rw [Magnitude.ofDecimal?_mul_pow, sameExponent]

/-- A form shows an exponent exactly if the layout demands it, and then with enough digits. -/
structure Layout.Demands
    (layout : Layout)
    (exponent : Int)
    (form : Form) :
    Prop where
  plain : layout.isPlain exponent → form.exponent = none
  marked :
    ¬layout.isPlain exponent →
      form.whole.length = 1 ∧
        ∃ zeros,
          form.exponent = some (.padded zeros exponent) ∧
            layout.exponentWidth ≤ (Exponent.padded zeros exponent).digits.length

/-- Without a fraction that is kept, a layout writes a form of the shortest digits. -/
theorem exists_form_text
    {layout : Layout}
    (noFraction : layout.keepsFraction = false)
    (negative : Bool)
    (magnitude : Magnitude) :
    ∃ form : Form,
      form.text = layout.text negative magnitude ∧
        form.Writes negative
          (ofDigits (significantDigits (shortest layout.tie magnitude).significand))
          ((shortest layout.tie magnitude).leadingExponent + 1 -
            (significantDigits (shortest layout.tie magnitude).significand).length) ∧
        layout.Demands (shortest layout.tie magnitude).leadingExponent form := by
  have small := small_significantDigits (shortest layout.tie magnitude).significand
  have notEmpty := significantDigits_ne_nil (shortest layout.tie magnitude).significand
  have below : (shortest layout.tie magnitude).leadingExponent.natAbs < exponentLimit :=
    Nat.lt_trans (natAbs_leadingExponent_shortest_lt layout.tie magnitude) (by decide)
  rw [Layout.text, noFraction]
  split
  · rename_i isPlain
    obtain ⟨form, isText, noExponent, writes⟩ :=
      exists_form_plainText negative small notEmpty
        (shortest layout.tie magnitude).leadingExponent
    exact ⟨form, isText, writes, fun _ => noExponent, fun notPlain => absurd isPlain notPlain⟩
  · rename_i notPlain
    obtain ⟨form, isText, oneDigit, isExponent, writes⟩ :=
      exists_form_exponentText negative small notEmpty layout.exponentWidth below
    refine ⟨form, isText, writes, fun isPlain => absurd isPlain notPlain,
      fun _ => ⟨oneDigit, _, isExponent, ?_⟩⟩
    rw [Exponent.padded, List.length_append, List.length_replicate, natText, List.length_map]
    omega

/-- Without a fraction that is kept, a layout writes what the shortest digits stand for. -/
theorem value?_text
    {layout : Layout}
    (noFraction : layout.keepsFraction = false)
    (negative : Bool)
    (magnitude : Magnitude) :
    (readLiteral? (layout.text negative magnitude)).bind Literal.value? =
      (Magnitude.ofDecimal? (shortest layout.tie magnitude).significand
        (shortest layout.tie magnitude).exponent).map (.finite negative) := by
  obtain ⟨form, isText, writes, _⟩ := exists_form_text noFraction negative magnitude
  rw [← isText, writes.value?, ofDecimal?_significantDigits]

/-- Fixed places write what a magnitude is rounded to. -/
theorem value?_fixed
    {places : Nat}
    (positive : 0 < places)
    (negative : Bool)
    (magnitude : Magnitude) :
    (readLiteral? (fixed places negative magnitude)).bind Literal.value? =
      (Magnitude.ofDecimal? (roundedPlaces places magnitude) (-places)).map
        (.finite negative) := by
  obtain ⟨form, isText, writes⟩ :=
    exists_form_pointed negative positive (roundedPlaces places magnitude)
  rw [fixed, ← isText, writes.value?]

theorem isSome_roundedPlaces
    (places : Nat)
    (magnitude : Magnitude) :
    (Magnitude.ofDecimal? (roundedPlaces places magnitude) (-places)).isSome := by
  have inRange :=
    isSome_ofDecimal?_onGrid .toEven magnitude (show -(places : Int) ≤ 292 by omega)
  simpa [onGrid, roundedPlaces] using inRange

end Shortest

end Decimal

namespace Numeral

theorem read?_fixed_nan
    (places : Nat) :
    read? (fixed places .nan) = some .nan := by
  rw [fixed]
  decide

theorem read?_fixed_infinity
    (places : Nat)
    (negative : Bool) :
    read? (fixed places (.infinity negative)) = some (.infinity negative) := by
  cases negative <;> rw [fixed] <;> decide

/-- A number with fixed places reads as the number of units of its last place. -/
theorem read?_fixed_finite
    {places : Nat}
    (positive : 0 < places)
    (negative : Bool)
    (magnitude : Magnitude) :
    read? (fixed places (.finite negative magnitude)) =
      (Magnitude.ofDecimal? (Decimal.roundedPlaces places magnitude) (-places)).map
        (.finite negative) := by
  rw [read?_eq, fixed, String.toList_ofList, Decimal.value?_fixed positive]

/-- Whatever number is written with fixed places is a numeric text. -/
theorem isSome_read?_fixed
    {places : Nat}
    (positive : 0 < places)
    (number : Binary64) :
    (read? (fixed places number)).isSome := by
  cases number with
  | nan => rw [read?_fixed_nan, Option.isSome_some]
  | infinity negative => rw [read?_fixed_infinity, Option.isSome_some]
  | finite negative magnitude =>
      rw [read?_fixed_finite positive, Option.isSome_map]
      exact Decimal.isSome_roundedPlaces places magnitude

/-- The result of an operation is stored as a numeric text. -/
theorem isSome_read?_stored
    (number : Binary64) :
    (read? (stored number)).isSome :=
  isSome_read?_fixed (by decide) number

end Numeral

end FunctionScript
