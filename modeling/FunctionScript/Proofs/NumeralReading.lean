import FunctionScript.Proofs.CorrectRounding
import FunctionScript.Proofs.NumeralText

namespace FunctionScript

/-!
# What texts read as

A text reads as an infinity or as not a number only if it is one of the words, and as a
finite number only if it is the text of a form in range; it then reads as the magnitude
nearest to the form's value. An exponent counts up to the digit that brings it to the
limit. So a form's value is not always the one that its digits have in full, but for an
exponent below ten times the limit, and for every text of up to 65000 characters, what
is read is the same: such an exponent shifts so few digits out of range at once.
-/

-- Powers are those of the core library, whatever else is in scope.
attribute [local instance (high)] instPowNat

namespace Decimal.Form

/-- The value of a form. -/
def value
    (form : Form) :
    ℚ :=
  form.significand * 10 ^ (form.exponent.elim 0 Exponent.value - form.places)

/-- The value of a form, with the digits of its exponent that count. -/
def countedValue
    (form : Form) :
    ℚ :=
  form.significand * 10 ^ form.lastExponent

/-- The exponent's digits or those before it are few enough for all of them to count. -/
def CountsInFull
    (form : Form) :
    Prop :=
  (∀ exponent ∈ form.exponent, exponent.size < 10 * exponentLimit) ∨
    form.text.length ≤ 65000

theorem length_digits_le
    (form : Form) :
    form.digits.length ≤ form.text.length := by
  obtain ⟨sign, whole, fraction, exponent, _, _⟩ := form
  cases fraction
  all_goals
    simp only [digits, text, unsignedText, pointText, List.length_append, List.length_map,
      Option.getD_some, Option.getD_none, List.length_cons, List.length_nil]
    omega

theorem length_significand_le
    (form : Form) :
    length form.significand ≤ form.digits.length :=
  length_le_of_lt_pow (List.length_pos_iff.mpr form.notEmpty) (ofDigits_lt_pow form.small)

theorem places_le
    (form : Form) :
    form.places ≤ form.digits.length := by
  rw [places, digits, List.length_append]
  exact Nat.le_add_left _ _

end Decimal.Form

namespace Magnitude

variable
  {significand : Nat}
  {exponent : Int}

theorem ofDecimal?_of_many_places
    (notZero : significand ≠ 0)
    (many : 310 < (Decimal.length significand : Int) + exponent) :
    ofDecimal? significand exponent = none := by
  simp [ofDecimal?, notZero, many]

theorem ofDecimal?_of_few_places
    (few : (Decimal.length significand : Int) + exponent < -330) :
    ofDecimal? significand exponent = some zero := by
  have notMany : ¬310 < (Decimal.length significand : Int) + exponent := by omega
  simp [ofDecimal?, few, notMany]

end Magnitude

namespace Decimal.Form

/-- Exponents from the limit on lead out of range, or to zero, unless there are many digits. -/
theorem ofDecimal?_of_large
    {form : Form}
    (short : form.text.length ≤ 65000)
    (sign : Sign)
    {size other : Nat}
    (large : exponentLimit ≤ size)
    (otherLarge : exponentLimit ≤ other) :
    Magnitude.ofDecimal? form.significand (sign.applied size - form.places) =
      Magnitude.ofDecimal? form.significand (sign.applied other - form.places) := by
  have digitsShort := Nat.le_trans form.length_digits_le short
  have significandShort := Nat.le_trans form.length_significand_le digitsShort
  have placesFew := Nat.le_trans form.places_le digitsShort
  simp only [exponentLimit] at large otherLarge
  by_cases isZero : form.significand = 0
  · simp [isZero, Magnitude.ofDecimal?]
  · by_cases negative : sign.isNegative
    · simp only [Sign.applied, negative, ↓reduceIte]
      rw [Magnitude.ofDecimal?_of_few_places (by omega),
        Magnitude.ofDecimal?_of_few_places (by omega)]
    · simp only [Sign.applied, negative]
      have positive := length_pos form.significand
      rw [Magnitude.ofDecimal?_of_many_places isZero (by simp; omega),
        Magnitude.ofDecimal?_of_many_places isZero (by simp; omega)]

/-- Digits of an exponent that do not count change what is rounded to only after many others. -/
theorem ofDecimal?_lastExponent
    {form : Form}
    (inFull : form.CountsInFull) :
    Magnitude.ofDecimal? form.significand form.lastExponent =
      Magnitude.ofDecimal? form.significand
        (form.exponent.elim 0 Exponent.value - form.places) := by
  rw [lastExponent, countedExponent]
  cases isExponent : form.exponent with
  | none => rfl
  | some exponent =>
      rw [Option.elim_some, Option.elim_some]
      rcases inFull with small | short
      · rw [Exponent.counted_eq_value (small exponent isExponent)]
      · rcases countedDigits_cases exponent.digits with allCount | ⟨countedLarge, large⟩
        · rw [Exponent.counted, allCount, Exponent.value, Exponent.size]
        · exact ofDecimal?_of_large short exponent.sign countedLarge
            (Nat.le_trans (Nat.le_mul_of_pos_left _ (by decide)) large)

end Decimal.Form

namespace Numeral

open Decimal

variable
  {text : String}
  {form : Form}
  {negative : Bool}
  {magnitude : Magnitude}

theorem read?_eq_some_iff
    {number : Binary64} :
    read? text = some number ↔
      ∃ literal, Denotes text.toList literal ∧ literal.value? = some number := by
  simp only [read?_eq, Option.bind_eq_some_iff, readLiteral?_eq_some_iff]

theorem read?_of_text
    (isText : form.text = text.toList) :
    read? text =
      (Magnitude.ofDecimal? form.significand form.lastExponent).map
        (.finite form.sign.isNegative) := by
  rw [read?_eq, ← isText, readLiteral?_text, Option.bind_some, Literal.value?]

theorem read?_infinity_iff :
    read? text = some (.infinity negative) ↔
      ∃ (sign : Sign) (word : List Char),
        sign.isNegative = negative ∧ SpellsInfinity word ∧ sign.text ++ word = text.toList := by
  rw [read?_eq_some_iff]
  constructor
  · rintro ⟨literal, denotes, isValue⟩
    generalize text.toList = characters at *
    cases denotes with
    | nan sign isWord => cases isValue
    | infinity sign isWord =>
        cases isValue
        exact ⟨sign, _, rfl, isWord, rfl⟩
    | decimal form =>
        obtain ⟨_, _, isFinite⟩ := Option.map_eq_some_iff.mp isValue
        cases isFinite
  · rintro ⟨sign, word, rfl, isWord, isText⟩
    rw [← isText]
    exact ⟨_, .infinity sign isWord, rfl⟩

theorem read?_nan_iff :
    read? text = some .nan ↔
      ∃ (sign : Sign) (word : List Char), SpellsNan word ∧ sign.text ++ word = text.toList := by
  rw [read?_eq_some_iff]
  constructor
  · rintro ⟨literal, denotes, isValue⟩
    generalize text.toList = characters at *
    cases denotes with
    | nan sign isWord => exact ⟨sign, _, isWord, rfl⟩
    | infinity sign isWord => cases isValue
    | decimal form =>
        obtain ⟨_, _, isFinite⟩ := Option.map_eq_some_iff.mp isValue
        cases isFinite
  · rintro ⟨sign, word, isWord, isText⟩
    rw [← isText]
    exact ⟨_, .nan sign isWord, rfl⟩

/-- The text of a form reads as a finite number or not at all. -/
theorem read?_finite_iff_of_text
    (isText : form.text = text.toList) :
    read? text = some (.finite negative magnitude) ↔
      form.sign.isNegative = negative ∧
        Magnitude.ofDecimal? form.significand form.lastExponent = some magnitude := by
  rw [read?_of_text isText, Option.map_eq_some_iff]
  constructor
  · rintro ⟨_, found, isFinite⟩
    cases isFinite
    exact ⟨rfl, found⟩
  · rintro ⟨rfl, found⟩
    exact ⟨magnitude, found, rfl⟩

theorem read?_none_iff_of_text
    (isText : form.text = text.toList) :
    read? text = none ↔ Magnitude.ofDecimal? form.significand form.lastExponent = none := by
  rw [read?_of_text isText, Option.map_eq_none_iff]

theorem read?_finite_iff :
    read? text = some (.finite negative magnitude) ↔
      ∃ form : Form,
        form.text = text.toList ∧ form.sign.isNegative = negative ∧
          form.countedValue < Magnitude.overflowValue ∧
            Magnitude.IsNearest form.countedValue magnitude := by
  constructor
  · intro isRead
    obtain ⟨literal, denotes, isValue⟩ := read?_eq_some_iff.mp isRead
    generalize isText : text.toList = characters at denotes
    cases denotes with
    | nan sign isWord => cases isValue
    | infinity sign isWord => cases isValue
    | decimal form =>
        obtain ⟨isNegative, found⟩ := (read?_finite_iff_of_text isText.symm).mp isRead
        exact ⟨form, rfl, isNegative, Magnitude.ofDecimal?_eq_some_iff.mp found⟩
  · rintro ⟨form, isText, isNegative, rounded⟩
    rw [read?_finite_iff_of_text isText]
    exact ⟨isNegative, Magnitude.ofDecimal?_eq_some_iff.mpr rounded⟩

theorem read?_eq_none_iff :
    read? text = none ↔
      (∀ (sign : Sign) (word : List Char),
          SpellsInfinity word ∨ SpellsNan word → sign.text ++ word ≠ text.toList) ∧
        ∀ form : Form,
          form.text = text.toList → Magnitude.overflowValue ≤ form.countedValue := by
  constructor
  · intro nothing
    refine ⟨fun sign word isWord isText => ?_, fun form isText => ?_⟩
    · rcases isWord with isInfinity | isNan
      · have isRead := read?_infinity_iff.mpr ⟨sign, word, rfl, isInfinity, isText⟩
        rw [nothing] at isRead
        cases isRead
      · have isRead := read?_nan_iff.mpr ⟨sign, word, isNan, isText⟩
        rw [nothing] at isRead
        cases isRead
    · exact Magnitude.ofDecimal?_eq_none_iff.mp ((read?_none_iff_of_text isText).mp nothing)
  · rintro ⟨noWord, outOfRange⟩
    rw [Option.eq_none_iff_forall_ne_some]
    intro number isRead
    cases number with
    | nan =>
        obtain ⟨sign, word, isNan, isText⟩ := read?_nan_iff.mp isRead
        exact noWord sign word (.inr isNan) isText
    | infinity negative =>
        obtain ⟨sign, word, _, isInfinity, isText⟩ := read?_infinity_iff.mp isRead
        exact noWord sign word (.inl isInfinity) isText
    | finite negative magnitude =>
        obtain ⟨form, isText, _, below, _⟩ := read?_finite_iff.mp isRead
        exact absurd (outOfRange form isText) below.not_ge

/--
Which texts read as which numbers: words as infinities and as what is not a number, and
forms in range as the magnitude nearest to their value.
-/
theorem read?_classified
    (text : String) :
    (∀ negative,
        read? text = some (.infinity negative) ↔
          ∃ (sign : Sign) (word : List Char),
            sign.isNegative = negative ∧ SpellsInfinity word ∧
              sign.text ++ word = text.toList) ∧
      (read? text = some .nan ↔
        ∃ (sign : Sign) (word : List Char),
          SpellsNan word ∧ sign.text ++ word = text.toList) ∧
      (∀ negative magnitude,
        read? text = some (.finite negative magnitude) ↔
          ∃ form : Form,
            form.text = text.toList ∧ form.sign.isNegative = negative ∧
              form.countedValue < Magnitude.overflowValue ∧
                Magnitude.IsNearest form.countedValue magnitude) ∧
      (read? text = none ↔
        (∀ (sign : Sign) (word : List Char),
            SpellsInfinity word ∨ SpellsNan word → sign.text ++ word ≠ text.toList) ∧
          ∀ form : Form,
            form.text = text.toList → Magnitude.overflowValue ≤ form.countedValue) ∧
      ∀ form : Form,
        form.text = text.toList →
          form.CountsInFull →
            (∀ negative magnitude,
              read? text = some (.finite negative magnitude) ↔
                form.sign.isNegative = negative ∧
                  form.value < Magnitude.overflowValue ∧
                    Magnitude.IsNearest form.value magnitude) ∧
              (read? text = none ↔ Magnitude.overflowValue ≤ form.value) := by
  refine ⟨fun negative => read?_infinity_iff, read?_nan_iff,
    fun negative magnitude => read?_finite_iff, read?_eq_none_iff,
    fun form isText inFull => ⟨fun negative magnitude => ?_, ?_⟩⟩
  · rw [read?_finite_iff_of_text isText, Form.ofDecimal?_lastExponent inFull,
      Magnitude.ofDecimal?_eq_some_iff, Form.value]
  · rw [read?_none_iff_of_text isText, Form.ofDecimal?_lastExponent inFull,
      Magnitude.ofDecimal?_eq_none_iff, Form.value]

theorem small_longWhole
    (zeros : Nat) :
    ∀ digit ∈ [1] ++ List.replicate zeros 0 ++ [], digit < 10 := by
  rw [List.append_nil]
  exact small_append (by decide) (small_replicate_zero zeros)

theorem small_longExponent :
    ∀ digit ∈ [6, 5, 5, 3, 6, 0], digit < 10 := by
  decide

/-- One with zeros behind it, and an exponent of more digits than count. -/
def longForm
    (zeros : Nat) :
    Form where
  sign := .absent
  whole := [1] ++ List.replicate zeros 0
  fraction := none
  exponent := some
    { mark := 'e'
      sign := .minus
      digits := [6, 5, 5, 3, 6, 0]
      isMark := Exponent.isMark_small
      small := small_longExponent
      notEmpty := List.cons_ne_nil _ _ }
  small := small_longWhole zeros
  notEmpty := List.cons_ne_nil _ _

/-- The text `1000…000e-655360`. -/
def longText
    (zeros : Nat) :
    String :=
  String.ofList ('1' :: (List.replicate zeros '0' ++ "e-655360".toList))

theorem text_longForm
    (zeros : Nat) :
    (longForm zeros).text = (longText zeros).toList := by
  rw [longText, String.toList_ofList]
  simp only [Form.text, Form.unsignedText, longForm, List.map_append, List.map_replicate]
  rfl

theorem significand_longForm
    (zeros : Nat) :
    (longForm zeros).significand = 1 * 10 ^ zeros := by
  simp only [Form.significand, Form.digits, longForm, Option.getD_none, List.append_nil]
  rw [ofDigits_append, ofDigits_replicate_zero, List.length_replicate]
  rfl

theorem value_longForm
    (zeros : Nat) :
    (longForm zeros).value = 10 ^ ((zeros : Int) - 655360) := by
  have written :
      (longForm zeros).exponent.elim 0 Exponent.value - (longForm zeros).places = -655360 :=
    rfl
  rw [Form.value, significand_longForm, written, Nat.one_mul, Nat.cast_pow, Nat.cast_ofNat,
    sub_eq_add_neg, zpow_add₀ (by norm_num), zpow_natCast]

theorem lastExponent_longForm
    (zeros : Nat) :
    (longForm zeros).lastExponent = -65536 :=
  rfl

/-- As many zeros as the exponent that counts takes away leave a one. -/
theorem read?_longText
    {zeros : Nat}
    (asCounted : -65536 + (zeros : Int) = 0) :
    read? (longText zeros) = (Magnitude.ofDecimal? 1 0).map (.finite false) := by
  rw [read?_of_text (text_longForm zeros), significand_longForm, lastExponent_longForm,
    Magnitude.ofDecimal?_mul_pow, asCounted]
  rfl

theorem exists_magnitude_one :
    ∃ one : Magnitude, Magnitude.ofDecimal? 1 0 = some one ∧ one.value = 1 := by
  let one : Magnitude := ⟨1023 * 2 ^ (52 : Nat), by decide⟩
  have evaluated : Magnitude.ofDecimal? 1 0 = some one ∧ one.units = unitsPerOne := by
    decide +kernel
  refine ⟨one, evaluated.1, ?_⟩
  rw [Magnitude.value, evaluated.2, div_self Magnitude.unitsPerOne_pos.ne']

/-- What is less than a half is closer to zero than to one. -/
theorem not_isNearest_one
    {one : Magnitude}
    (isOne : one.value = 1)
    {exact : ℚ}
    (positive : 0 < exact)
    (small : exact < 1 / 2) :
    ¬Magnitude.IsNearest exact one := by
  intro nearest
  have closer := nearest.le Magnitude.zero
  rw [isOne, Magnitude.value_zero, abs_of_pos (by linarith), zero_sub, abs_neg,
    abs_of_pos positive] at closer
  linarith

/-- Where an exponent does not count in full, a text close to zero may read as one. -/
theorem longText_not_rounded :
    ¬∀ (form : Form) (negative : Bool) (magnitude : Magnitude),
      form.text = (longText 65536).toList →
        (read? (longText 65536) = some (.finite negative magnitude) ↔
          form.sign.isNegative = negative ∧
            form.value < Magnitude.overflowValue ∧
              Magnitude.IsNearest form.value magnitude) := by
  intro rounded
  obtain ⟨one, found, isOne⟩ := exists_magnitude_one
  have isRead : read? (longText 65536) = some (.finite false one) := by
    rw [read?_longText (by norm_num), found, Option.map_some]
  have nearest := ((rounded (longForm 65536) false one (text_longForm 65536)).mp isRead).2.2
  have small : (10 : ℚ) ^ (((65536 : Nat) : Int) - 655360) ≤ 10 ^ (-1 : Int) :=
    zpow_le_zpow_right₀ (by norm_num) (by norm_num)
  rw [value_longForm] at nearest
  refine not_isNearest_one isOne (zpow_pos (by norm_num) _) (lt_of_le_of_lt small ?_) nearest
  norm_num

end Numeral

end FunctionScript
