import Mathlib.Data.List.Forall2
import Mathlib.Data.List.Induction
import Mathlib.Data.List.Infix
import FunctionScript.Decimal.Literal

namespace FunctionScript.Decimal

/-!
# The grammar of numbers

A form is what the text of a decimal number consists of: perhaps a sign, digits with
perhaps a point among or around them, at least one digit, and perhaps an exponent. The
reader takes a text for a decimal number if it is the text of a form, and only then; the
form tells the digits and the power of ten of the last one. Besides there are the words
for an infinity and for what is not a number, in any letter case, with a sign of their own.
-/

-- Powers are those of the core library, whatever else is in scope.
attribute [local instance (high)] instPowNat

section Digits

theorem isDigit_digitChar :
    ∀ digit < 10, isDigit (digitChar digit) := by
  decide

theorem digitValue_digitChar :
    ∀ digit < 10, digitValue (digitChar digit) = digit := by
  decide

theorem isDigit_of_mem_map
    {digits : List Nat}
    (small : ∀ digit ∈ digits, digit < 10) :
    ∀ character ∈ digits.map digitChar, isDigit character := by
  intro character member
  obtain ⟨digit, inDigits, rfl⟩ := List.mem_map.mp member
  exact isDigit_digitChar digit (small digit inDigits)

/-- Digit characters read as the digits. -/
theorem readDigits_map
    {digits : List Nat}
    (small : ∀ digit ∈ digits, digit < 10) :
    readDigits (digits.map digitChar) = ofDigits digits := by
  have sameDigits : digits.map (digitValue ∘ digitChar) = digits.map id := by
    apply List.map_congr_left
    intro digit member
    exact digitValue_digitChar digit (small digit member)
  rw [readDigits, List.map_map, sameDigits, List.map_id]

theorem ofDigits_lt_pow
    {digits : List Nat}
    (small : ∀ digit ∈ digits, digit < 10) :
    ofDigits digits < 10 ^ digits.length := by
  induction digits using List.reverseRecOn with
  | nil => decide
  | append_singleton front last inductionHypothesis =>
      have lastSmall := small last (by simp)
      have frontBelow := inductionHypothesis fun digit member => small digit (by simp [member])
      rw [ofDigits_append_singleton, List.length_append, List.length_singleton, Nat.pow_succ]
      omega

theorem isDigit_iff
    (character : Char) :
    isDigit character ↔ 0x30 ≤ character.toNat ∧ character.toNat ≤ 0x39 := by
  simp [isDigit, Char.le_def, UInt32.le_iff_toNat_le]

theorem exists_digit_of_isDigit
    {character : Char}
    (isDigit : isDigit character) :
    ∃ digit, digit < 10 ∧ character = digitChar digit := by
  obtain ⟨atLeast, atMost⟩ := (isDigit_iff character).mp isDigit
  refine ⟨character.toNat - 0x30, by omega, ?_⟩
  rw [digitChar, Nat.add_sub_cancel' atLeast, Char.ofNat_toNat]

/-- Characters that are digits are the characters of some digits. -/
theorem exists_digits_of_isDigit
    {characters : List Char}
    (allDigits : ∀ character ∈ characters, isDigit character) :
    ∃ digits : List Nat,
      (∀ digit ∈ digits, digit < 10) ∧ characters = digits.map digitChar := by
  induction characters with
  | nil => exact ⟨[], by simp, rfl⟩
  | cons first rest inductionHypothesis =>
      obtain ⟨digit, digitSmall, rfl⟩ := exists_digit_of_isDigit (allDigits first (by simp))
      obtain ⟨digits, small, rfl⟩ :=
        inductionHypothesis fun character member => allDigits character (by simp [member])
      exact ⟨digit :: digits, by simpa using ⟨digitSmall, small⟩, rfl⟩

end Digits

section Signs

/-- How a sign is written, if it is. -/
inductive Sign where
  | absent
  | plus
  | minus
  deriving DecidableEq, Repr

namespace Sign

def text :
    Sign →
    List Char
  | absent => []
  | plus => ['+']
  | minus => ['-']

def isNegative
    (sign : Sign) :
    Bool :=
  sign == minus

/-- A number of the given size. -/
def applied
    (sign : Sign)
    (size : Nat) :
    Int :=
  if sign.isNegative then -(size : Int) else size

@[simp]
theorem applied_plus
    (size : Nat) :
    plus.applied size = size :=
  rfl

@[simp]
theorem applied_minus
    (size : Nat) :
    minus.applied size = -(size : Int) :=
  rfl

end Sign

/-- No sign stands in front. -/
def Unsigned
    (characters : List Char) :
    Prop :=
  ∀ first ∈ characters.head?, first ≠ '-' ∧ first ≠ '+'

theorem splitSign_text
    (sign : Sign)
    {rest : List Char}
    (unsigned : Unsigned rest) :
    splitSign (sign.text ++ rest) = (sign.isNegative, rest) := by
  cases sign with
  | absent =>
      rw [Sign.text, List.nil_append, splitSign.eq_def]
      split
      · exact absurd rfl (unsigned '-' rfl).1
      · exact absurd rfl (unsigned '+' rfl).2
      · rfl
  | plus => rfl
  | minus => rfl

theorem exists_sign_of_splitSign
    (characters : List Char) :
    ∃ sign : Sign,
      sign.isNegative = (splitSign characters).1 ∧
        characters = sign.text ++ (splitSign characters).2 := by
  rw [splitSign.eq_def]
  split
  · exact ⟨.minus, rfl, rfl⟩
  · exact ⟨.plus, rfl, rfl⟩
  · exact ⟨.absent, rfl, rfl⟩

theorem unsigned_of_isDigit
    {first : Char}
    (isDigit : isDigit first)
    (rest : List Char) :
    Unsigned (first :: rest) := by
  intro character isFirst
  cases isFirst
  constructor <;> (rintro rfl; revert isDigit; decide)

theorem unsigned_map
    {digits : List Nat}
    (small : ∀ digit ∈ digits, digit < 10)
    (notEmpty : digits ≠ []) :
    Unsigned (digits.map digitChar) := by
  cases digits with
  | nil => exact absurd rfl notEmpty
  | cons first rest =>
      exact unsigned_of_isDigit (isDigit_digitChar first (small first (by simp))) _

end Signs

section Exponents

/-- An exponent as it is written. -/
structure Exponent where
  mark : Char
  sign : Sign
  digits : List Nat
  isMark : mark = 'e' ∨ mark = 'E'
  small : ∀ digit ∈ digits, digit < 10
  notEmpty : digits ≠ []

/-- The digits up to the one that brings an exponent to the limit, or all if none does. -/
def countedDigits
    (digits : List Nat) :
    List Nat :=
  (digits.inits.find? fun front => exponentLimit ≤ ofDigits front).getD digits

namespace Exponent

def text
    (exponent : Exponent) :
    List Char :=
  exponent.mark :: (exponent.sign.text ++ exponent.digits.map digitChar)

/-- The exponent without its sign. -/
def size
    (exponent : Exponent) :
    Nat :=
  ofDigits exponent.digits

def value
    (exponent : Exponent) :
    Int :=
  exponent.sign.applied exponent.size

/-- The exponent of the digits that count. -/
def counted
    (exponent : Exponent) :
    Int :=
  exponent.sign.applied (ofDigits (countedDigits exponent.digits))

end Exponent

theorem find?_inits_append_singleton
    (attempt : List Nat → Bool)
    (front : List Nat)
    (last : Nat) :
    (front ++ [last]).inits.find? attempt =
      (front.inits.find? attempt).or ([front ++ [last]].find? attempt) := by
  have fronts : (front ++ [last]).inits = front.inits ++ [front ++ [last]] := by
    simp [List.inits_append]
  rw [fronts, List.find?_append]

/-- Digits after those that reach the limit do not count. -/
theorem countedDigits_of_reached
    {front : List Nat}
    (reached : exponentLimit ≤ ofDigits (countedDigits front))
    (last : Nat) :
    ofDigits (countedDigits (front ++ [last])) = ofDigits (countedDigits front) := by
  rw [countedDigits] at reached ⊢
  rw [find?_inits_append_singleton, countedDigits]
  cases found : front.inits.find? fun digits => decide (exponentLimit ≤ ofDigits digits) with
  | some counted => rfl
  | none =>
      have isFront := (List.mem_inits front front).mpr (List.prefix_refl front)
      have notReached := List.find?_eq_none.mp found front isFront
      rw [found, Option.getD_none] at reached
      exact absurd (decide_eq_true reached) notReached

/-- As long as digits do not reach the limit, all of them count, and so does the next one. -/
theorem countedDigits_of_not_reached
    {front : List Nat}
    (notReached : ¬exponentLimit ≤ ofDigits (countedDigits front))
    (last : Nat) :
    countedDigits front = front ∧ countedDigits (front ++ [last]) = front ++ [last] := by
  rw [countedDigits] at notReached
  rw [countedDigits, countedDigits, find?_inits_append_singleton]
  cases found : front.inits.find? fun digits => decide (exponentLimit ≤ ofDigits digits) with
  | some counted =>
      have reached := List.find?_some found
      rw [found, Option.getD_some] at notReached
      exact absurd (of_decide_eq_true reached) notReached
  | none =>
      rw [Option.none_or, List.find?_singleton]
      split <;> exact ⟨rfl, rfl⟩

/-- The reader's exponent is that of the digits that count. -/
theorem limitedExponent_map
    {digits : List Nat}
    (small : ∀ digit ∈ digits, digit < 10) :
    limitedExponent (digits.map digitChar) = ofDigits (countedDigits digits) := by
  induction digits using List.reverseRecOn with
  | nil => rfl
  | append_singleton front last inductionHypothesis =>
      have lastSmall := small last (by simp)
      have frontRead := inductionHypothesis fun digit member => small digit (by simp [member])
      rw [limitedExponent] at frontRead ⊢
      rw [List.map_append, List.foldl_append, frontRead, List.map_singleton,
        List.foldl_cons, List.foldl_nil]
      by_cases reached : exponentLimit ≤ ofDigits (countedDigits front)
      · rw [if_neg (Nat.not_lt_of_le reached), countedDigits_of_reached reached]
      · obtain ⟨allCount, lastCounts⟩ := countedDigits_of_not_reached reached last
        rw [if_pos (Nat.lt_of_not_le reached), allCount, lastCounts,
          digitValue_digitChar last lastSmall, ofDigits_append_singleton]

/-- An exponent either counts in full or reaches the limit, as far as it counts and in full. -/
theorem countedDigits_cases
    (digits : List Nat) :
    countedDigits digits = digits ∨
      exponentLimit ≤ ofDigits (countedDigits digits) ∧
        10 * exponentLimit ≤ ofDigits digits := by
  induction digits using List.reverseRecOn with
  | nil => exact .inl rfl
  | append_singleton front last inductionHypothesis =>
      by_cases reached : exponentLimit ≤ ofDigits (countedDigits front)
      · right
        rw [countedDigits_of_reached reached, ofDigits_append_singleton]
        rcases inductionHypothesis with allCount | ⟨_, large⟩
        · rw [allCount] at reached ⊢
          omega
        · omega
      · exact .inl (countedDigits_of_not_reached reached last).2

/-- An exponent below ten times the limit counts in full. -/
theorem Exponent.counted_eq_value
    {exponent : Exponent}
    (below : exponent.size < 10 * exponentLimit) :
    exponent.counted = exponent.value := by
  rcases countedDigits_cases exponent.digits with allCount | ⟨_, large⟩
  · rw [counted, allCount, value, size]
  · rw [size] at below
    omega

/-- An exponent, if there is one. -/
def exponentText? :
    Option Exponent →
    List Char
  | none => []
  | some exponent => exponent.text

/-- The exponent that counts; without one it is zero. -/
def countedExponent
    (exponent : Option Exponent) :
    Int :=
  exponent.elim 0 Exponent.counted

theorem readExponent?_text
    (exponent : Option Exponent) :
    readExponent? (exponentText? exponent) = some (countedExponent exponent) := by
  cases exponent with
  | none => rfl
  | some exponent =>
      have signSplit :=
        splitSign_text exponent.sign (unsigned_map exponent.small exponent.notEmpty)
      have digitsRead :
          readExponentDigits? (exponent.digits.map digitChar) =
            some (ofDigits (countedDigits exponent.digits)) := by
        have allDigits := List.all_eq_true.mpr (isDigit_of_mem_map exponent.small)
        rw [readExponentDigits?, if_pos ⟨by simp [exponent.notEmpty], allDigits⟩,
          limitedExponent_map exponent.small]
      simp only [exponentText?, Exponent.text, readExponent?, exponent.isMark, ↓reduceIte,
        signSplit, digitsRead]
      rfl

theorem exists_exponent_of_readExponent?
    {characters : List Char}
    (isRead : (readExponent? characters).isSome) :
    ∃ exponent, characters = exponentText? exponent := by
  cases characters with
  | nil => exact ⟨none, rfl⟩
  | cons mark rest =>
      rw [readExponent?] at isRead
      split at isRead
      case isFalse => cases isRead
      case isTrue isMark =>
        obtain ⟨sign, _, isRest⟩ := exists_sign_of_splitSign rest
        rw [Option.isSome_map, readExponentDigits?] at isRead
        split at isRead
        case isFalse => cases isRead
        case isTrue allDigits =>
          obtain ⟨digits, small, isDigits⟩ :=
            exists_digits_of_isDigit (List.all_eq_true.mp allDigits.2)
          have notEmpty : digits ≠ [] := by
            rintro rfl
            exact allDigits.1 isDigits
          rw [isDigits] at isRest
          exact ⟨some ⟨mark, sign, digits, isMark, small, notEmpty⟩, by rw [isRest]; rfl⟩

end Exponents

section Points

variable
  {whole : List Nat}
  {fraction : Option (List Nat)}
  {rest : List Char}

/-- The point and the digits after it, if there is a point. -/
def pointText :
    Option (List Nat) →
    List Char
  | none => []
  | some digits => '.' :: digits.map digitChar

/-- No digit and no point follows. -/
def Stops
    (rest : List Char) :
    Prop :=
  ∀ next ∈ rest.head?, isDigit next = false ∧ next ≠ '.'

theorem stops_exponentText?
    (exponent : Option Exponent) :
    Stops (exponentText? exponent) := by
  cases exponent with
  | none => exact fun _ none => nomatch none
  | some exponent =>
      intro next isNext
      cases isNext
      rcases exponent.isMark with isMark | isMark
      all_goals
        rw [isMark]
        decide

theorem takeWhile_of_stops
    (stops : Stops rest) :
    rest.takeWhile isDigit = [] ∧ rest.dropWhile isDigit = rest := by
  cases rest with
  | nil => exact ⟨rfl, rfl⟩
  | cons next after =>
      obtain ⟨noDigit, _⟩ := stops next rfl
      simp [noDigit]

theorem splitFraction_of_stops
    (stops : Stops rest) :
    splitFraction rest = ([], rest) := by
  rw [splitFraction.eq_def]
  split
  · exact absurd rfl (stops '.' rfl).2
  · rfl

/-- The digits after a point end where no digit follows. -/
theorem splitFraction_pointText
    (small : ∀ digit ∈ fraction.getD [], digit < 10)
    (stops : Stops rest) :
    (pointText fraction ++ rest).takeWhile isDigit = [] ∧
      splitFraction ((pointText fraction ++ rest).dropWhile isDigit) =
        ((fraction.getD []).map digitChar, rest) := by
  obtain ⟨noMore, allRest⟩ := takeWhile_of_stops stops
  cases fraction with
  | none => simp [pointText, noMore, allRest, splitFraction_of_stops stops]
  | some digits =>
      have fractionDigits := isDigit_of_mem_map small
      have noDigit : isDigit '.' = false := by
        decide
      rw [Option.getD_some] at fractionDigits ⊢
      rw [pointText, List.cons_append, List.takeWhile_cons_of_neg (by simp [noDigit]),
        List.dropWhile_cons_of_neg (by simp [noDigit]), splitFraction,
        List.takeWhile_append_of_pos fractionDigits,
        List.dropWhile_append_of_pos fractionDigits, noMore, allRest, List.append_nil]
      exact ⟨rfl, rfl⟩

/-- Where a point splits digits off, it stands with them in front of the rest. -/
theorem exists_fraction_of_splitFraction
    (characters : List Char) :
    ∃ fraction : Option (List Nat),
      (∀ digit ∈ fraction.getD [], digit < 10) ∧
        (splitFraction characters).1 = (fraction.getD []).map digitChar ∧
        characters = pointText fraction ++ (splitFraction characters).2 := by
  rw [splitFraction.eq_def]
  split
  · rename_i after
    obtain ⟨digits, small, isDigits⟩ :=
      exists_digits_of_isDigit (List.all_eq_true.mp (List.all_takeWhile (l := after)))
    refine ⟨some digits, small, isDigits, ?_⟩
    rw [pointText, ← isDigits, List.cons_append, List.takeWhile_append_dropWhile]
  · exact ⟨none, by simp, rfl, rfl⟩

end Points

section Forms

/-- What the text of a decimal number consists of. -/
structure Form where
  sign : Sign
  /-- The digits before the point, or all if there is none. -/
  whole : List Nat
  /-- The digits after the point, if there is one. -/
  fraction : Option (List Nat)
  exponent : Option Exponent
  small : ∀ digit ∈ whole ++ fraction.getD [], digit < 10
  notEmpty : whole ++ fraction.getD [] ≠ []

namespace Form

/-- All digits in front of the exponent. -/
def digits
    (form : Form) :
    List Nat :=
  form.whole ++ form.fraction.getD []

/-- How many digits stand after the point. -/
def places
    (form : Form) :
    Nat :=
  (form.fraction.getD []).length

def significand
    (form : Form) :
    Nat :=
  ofDigits form.digits

def unsignedText
    (form : Form) :
    List Char :=
  form.whole.map digitChar ++ (pointText form.fraction ++ exponentText? form.exponent)

def text
    (form : Form) :
    List Char :=
  form.sign.text ++ form.unsignedText

/-- The power of ten of the last digit, as far as the exponent counts. -/
def lastExponent
    (form : Form) :
    Int :=
  countedExponent form.exponent - form.places

theorem small_whole
    (form : Form) :
    ∀ digit ∈ form.whole, digit < 10 :=
  fun digit member => form.small digit (List.mem_append_left _ member)

theorem small_fraction
    (form : Form) :
    ∀ digit ∈ form.fraction.getD [], digit < 10 :=
  fun digit member => form.small digit (List.mem_append_right _ member)

/-- A digit or a point comes first. -/
theorem head_unsignedText
    (form : Form) :
    ∃ first rest, form.unsignedText = first :: rest ∧ (isDigit first ∨ first = '.') := by
  obtain ⟨sign, whole, fraction, exponent, small, notEmpty⟩ := form
  cases whole with
  | cons first others =>
      exact ⟨_, _, rfl, .inl (isDigit_digitChar first (small first (by simp)))⟩
  | nil =>
      cases fraction with
      | none => exact absurd rfl notEmpty
      | some digits => exact ⟨_, _, rfl, .inr rfl⟩

theorem unsigned_unsignedText
    (form : Form) :
    Unsigned form.unsignedText := by
  obtain ⟨first, rest, isText, isDigit | rfl⟩ := form.head_unsignedText
  · rw [isText]
    exact unsigned_of_isDigit isDigit rest
  · rw [isText]
    intro character isFirst
    cases isFirst
    decide

/-- The digits of a form are read up to its end. -/
theorem readDecimal?_unsignedText
    (form : Form)
    (negative : Bool) :
    readDecimal? negative form.unsignedText =
      some (.decimal negative form.significand form.lastExponent) := by
  have wholeDigits := isDigit_of_mem_map form.small_whole
  obtain ⟨noMore, splits⟩ :=
    splitFraction_pointText form.small_fraction (stops_exponentText? form.exponent)
  have notEmpty :
      ¬form.whole.map digitChar ++ (form.fraction.getD []).map digitChar = [] := by
    rw [← List.map_append, List.map_eq_nil_iff]
    exact form.notEmpty
  simp only [readDecimal?, unsignedText, List.takeWhile_append_of_pos wholeDigits,
    List.dropWhile_append_of_pos wholeDigits, noMore, splits, List.append_nil, notEmpty,
    ↓reduceIte, readExponent?_text, Option.map_some]
  rw [← List.map_append, readDigits_map form.small, List.length_map]
  rfl

end Form

/-- Whatever is read as a decimal number is the text of a form, but for the sign. -/
theorem exists_form_of_readDecimal?
    {negative : Bool}
    {characters : List Char}
    (sign : Sign)
    (isRead : (readDecimal? negative characters).isSome) :
    ∃ form : Form, form.sign = sign ∧ characters = form.unsignedText := by
  obtain ⟨whole, wholeSmall, isWhole⟩ :=
    exists_digits_of_isDigit (List.all_eq_true.mp (List.all_takeWhile (l := characters)))
  obtain ⟨fraction, fractionSmall, isFraction, isAfter⟩ :=
    exists_fraction_of_splitFraction (characters.dropWhile isDigit)
  have split := List.takeWhile_append_dropWhile (p := isDigit) (l := characters)
  simp only [readDecimal?] at isRead
  split at isRead
  case isTrue => cases isRead
  case isFalse notEmpty =>
    rw [Option.isSome_map] at isRead
    obtain ⟨exponent, isExponent⟩ := exists_exponent_of_readExponent? isRead
    rw [isWhole, isFraction, ← List.map_append, List.map_eq_nil_iff] at notEmpty
    rw [isWhole, isAfter, isExponent] at split
    have small : ∀ digit ∈ whole ++ fraction.getD [], digit < 10 := by
      intro digit member
      exact (List.mem_append.mp member).elim (wholeSmall digit) (fractionSmall digit)
    exact ⟨⟨sign, whole, fraction, exponent, small, notEmpty⟩, rfl, split.symm⟩

end Forms

section Words

/-- A word of small letters, each written as it is or as a capital. -/
def InEitherCase
    (word characters : List Char) :
    Prop :=
  List.Forall₂
    (fun letter character => character = letter ∨ character = letter.toUpper) word characters

def SpellsInfinity
    (characters : List Char) :
    Prop :=
  InEitherCase ['i', 'n', 'f'] characters ∨
    InEitherCase ['i', 'n', 'f', 'i', 'n', 'i', 't', 'y'] characters

def SpellsNan
    (characters : List Char) :
    Prop :=
  InEitherCase ['n', 'a', 'n'] characters

theorem toNat_toLower
    (character : Char) :
    character.toLower.toNat =
      if 65 ≤ character.toNat ∧ character.toNat ≤ 90 then
        character.toNat + 32
      else
        character.toNat := by
  have isCapital :
      (character.val ≥ 'A'.val ∧ character.val ≤ 'Z'.val) ↔
        65 ≤ character.toNat ∧ character.toNat ≤ 90 := by
    simp [UInt32.le_iff_toNat_le]
  by_cases capital : character.val ≥ 'A'.val ∧ character.val ≤ 'Z'.val
  · have isLetter := isCapital.mp capital
    have lowered : character.toLower.val = character.val + ('a'.val - 'A'.val) := by
      delta Char.toLower
      rw [dif_pos capital]
    have shifted : (character.val + ('a'.val - 'A'.val)).toNat = character.toNat + 32 := by
      rw [UInt32.toNat_add, Char.toNat_val, show ('a'.val - 'A'.val).toNat = 32 from rfl]
      omega
    rw [if_pos isLetter]
    exact (congrArg UInt32.toNat lowered).trans shifted
  · have same : character.toLower = character := dif_neg capital
    rw [if_neg (mt isCapital.mpr capital), same]

theorem toNat_toUpper
    {letter : Char}
    (isSmall : 97 ≤ letter.toNat ∧ letter.toNat ≤ 122) :
    letter.toUpper.toNat = letter.toNat - 32 := by
  have inRange : 'a'.val ≤ letter.val ∧ letter.val ≤ 'z'.val := by
    simpa [UInt32.le_iff_toNat_le] using isSmall
  have raised : letter.toUpper.val = letter.val + ('A'.val - 'a'.val) := by
    delta Char.toUpper
    rw [dif_pos inRange]
  have shifted : (letter.val + ('A'.val - 'a'.val)).toNat = letter.toNat - 32 := by
    rw [UInt32.toNat_add, Char.toNat_val, show ('A'.val - 'a'.val).toNat = 4294967264 from rfl]
    omega
  exact (congrArg UInt32.toNat raised).trans shifted

/-- A small letter is the small form of itself and of its capital only. -/
theorem toLower_eq_iff
    {letter : Char}
    (isSmall : 97 ≤ letter.toNat ∧ letter.toNat ≤ 122)
    (character : Char) :
    character.toLower = letter ↔ character = letter ∨ character = letter.toUpper := by
  simp only [← Char.toNat_inj, toNat_toLower, toNat_toUpper isSmall]
  split <;> omega

def isSmallLetter
    (letter : Char) :
    Bool :=
  97 ≤ letter.toNat && letter.toNat ≤ 122

theorem lowerCase_eq_iff
    {word : List Char}
    (isSmall : word.all isSmallLetter = true)
    (characters : List Char) :
    lowerCase characters = word ↔ InEitherCase word characters := by
  rw [lowerCase, InEitherCase]
  induction word generalizing characters with
  | nil => simp
  | cons letter others inductionHypothesis =>
      cases characters with
      | nil => simp
      | cons character rest =>
          simp only [List.all_cons, Bool.and_eq_true, isSmallLetter,
            decide_eq_true_eq] at isSmall
          rw [List.map_cons, List.cons.injEq, toLower_eq_iff isSmall.1,
            inductionHypothesis isSmall.2, List.forall₂_cons]

/-- A word begins with a letter, which no digit, point or sign is. -/
theorem le_head_of_inEitherCase
    {letter : Char}
    (isSmall : 97 ≤ letter.toNat ∧ letter.toNat ≤ 122)
    {others characters : List Char}
    (spelled : InEitherCase (letter :: others) characters) :
    ∀ first ∈ characters.head?, 65 ≤ first.toNat := by
  cases spelled with
  | cons sameLetter _ =>
      intro first isFirst
      cases isFirst
      rcases sameLetter with rfl | rfl
      · omega
      · rw [toNat_toUpper isSmall]
        omega

theorem spellsInfinity_iff
    (characters : List Char) :
    SpellsInfinity characters ↔
      lowerCase characters = ['i', 'n', 'f'] ∨
        lowerCase characters = ['i', 'n', 'f', 'i', 'n', 'i', 't', 'y'] := by
  rw [lowerCase_eq_iff rfl, lowerCase_eq_iff rfl, SpellsInfinity]

theorem spellsNan_iff
    (characters : List Char) :
    SpellsNan characters ↔ lowerCase characters = ['n', 'a', 'n'] := by
  rw [lowerCase_eq_iff rfl, SpellsNan]

theorem le_head_of_word
    {characters : List Char}
    (isWord : SpellsInfinity characters ∨ SpellsNan characters) :
    ∀ first ∈ characters.head?, 65 ≤ first.toNat := by
  rcases isWord with (short | long) | nan
  · exact le_head_of_inEitherCase (by decide) short
  · exact le_head_of_inEitherCase (by decide) long
  · exact le_head_of_inEitherCase (by decide) nan

theorem unsigned_of_word
    {characters : List Char}
    (isWord : SpellsInfinity characters ∨ SpellsNan characters) :
    Unsigned characters := by
  intro first isFirst
  have isLetter := le_head_of_word isWord first isFirst
  constructor <;> (rintro rfl; revert isLetter; decide)

/-- No form's digits are a word. -/
theorem Form.not_word
    (form : Form) :
    ¬(SpellsInfinity form.unsignedText ∨ SpellsNan form.unsignedText) := by
  intro isWord
  obtain ⟨first, rest, isText, isFirst⟩ := form.head_unsignedText
  have isLetter := le_head_of_word isWord first (by rw [isText]; rfl)
  rcases isFirst with isDigit | rfl
  · simp only [isDigit_iff] at isDigit
    omega
  · revert isLetter
    decide

theorem not_spellsInfinity_of_spellsNan
    {characters : List Char}
    (isNan : SpellsNan characters) :
    ¬SpellsInfinity characters := by
  rw [spellsNan_iff] at isNan
  rw [spellsInfinity_iff, isNan]
  decide

end Words

section Literals

variable {characters : List Char}

/-- What is read after the sign: one of the words, or else a decimal number. -/
theorem readLiteral?_eq
    (characters : List Char) :
    (SpellsInfinity (splitSign characters).2 ∧
        readLiteral? characters = some (.infinity (splitSign characters).1)) ∨
      (SpellsNan (splitSign characters).2 ∧ readLiteral? characters = some .nan) ∨
      (¬(SpellsInfinity (splitSign characters).2 ∨ SpellsNan (splitSign characters).2) ∧
        readLiteral? characters =
          readDecimal? (splitSign characters).1 (splitSign characters).2) := by
  simp only [spellsInfinity_iff, spellsNan_iff, readLiteral?]
  split
  · rename_i isInfinity
    exact .inl ⟨isInfinity, rfl⟩
  · rename_i noInfinity
    split
    · rename_i isNan
      exact .inr (.inl ⟨isNan, rfl⟩)
    · rename_i noNan
      exact .inr (.inr ⟨not_or_intro noInfinity noNan, rfl⟩)

/-- A form's text is read as the form says. -/
theorem readLiteral?_text
    (form : Form) :
    readLiteral? form.text =
      some (.decimal form.sign.isNegative form.significand form.lastExponent) := by
  have signSplit := splitSign_text form.sign form.unsigned_unsignedText
  rcases readLiteral?_eq form.text with ⟨isInfinity, _⟩ | ⟨isNan, _⟩ | ⟨_, isRead⟩
  · rw [Form.text, signSplit] at isInfinity
    exact absurd (.inl isInfinity) form.not_word
  · rw [Form.text, signSplit] at isNan
    exact absurd (.inr isNan) form.not_word
  · rw [isRead, Form.text, signSplit, form.readDecimal?_unsignedText]

theorem readLiteral?_infinity
    (sign : Sign)
    {word : List Char}
    (isWord : SpellsInfinity word) :
    readLiteral? (sign.text ++ word) = some (.infinity sign.isNegative) := by
  have signSplit := splitSign_text sign (unsigned_of_word (.inl isWord))
  rcases readLiteral?_eq (sign.text ++ word) with ⟨_, isRead⟩ | ⟨isNan, _⟩ | ⟨noWord, _⟩
  · rw [isRead, signSplit]
  · rw [signSplit] at isNan
    exact absurd isWord (not_spellsInfinity_of_spellsNan isNan)
  · rw [signSplit] at noWord
    exact absurd (.inl isWord) noWord

theorem readLiteral?_nan
    (sign : Sign)
    {word : List Char}
    (isWord : SpellsNan word) :
    readLiteral? (sign.text ++ word) = some .nan := by
  have signSplit := splitSign_text sign (unsigned_of_word (.inr isWord))
  rcases readLiteral?_eq (sign.text ++ word) with ⟨isInfinity, _⟩ | ⟨_, isRead⟩ | ⟨noWord, _⟩
  · rw [signSplit] at isInfinity
    exact absurd isInfinity (not_spellsInfinity_of_spellsNan isWord)
  · exact isRead
  · rw [signSplit] at noWord
    exact absurd (.inr isWord) noWord

/-- What a text stands for by the grammar. -/
inductive Denotes :
    List Char →
    Literal →
    Prop where
  | nan
      (sign : Sign)
      {word : List Char}
      (isWord : SpellsNan word) :
      Denotes (sign.text ++ word) .nan
  | infinity
      (sign : Sign)
      {word : List Char}
      (isWord : SpellsInfinity word) :
      Denotes (sign.text ++ word) (.infinity sign.isNegative)
  | decimal
      (form : Form) :
      Denotes form.text (.decimal form.sign.isNegative form.significand form.lastExponent)

theorem denotes_of_readLiteral?
    {literal : Literal}
    (isRead : readLiteral? characters = some literal) :
    Denotes characters literal := by
  obtain ⟨sign, isNegative, isText⟩ := exists_sign_of_splitSign characters
  rcases readLiteral?_eq characters with
    ⟨isInfinity, read⟩ | ⟨isNan, read⟩ | ⟨_, read⟩
  · rw [isRead, ← isNegative, Option.some.injEq] at read
    rw [isText, read]
    exact .infinity sign isInfinity
  · rw [isRead, Option.some.injEq] at read
    rw [isText, read]
    exact .nan sign isNan
  · obtain ⟨form, isSign, isForm⟩ :=
      exists_form_of_readDecimal? sign (by rw [← read, isRead]; rfl)
    have isFormText : characters = form.text := by
      rw [isText, isForm, Form.text, isSign]
    rw [isFormText, readLiteral?_text, Option.some.injEq] at isRead
    rw [isFormText, ← isRead]
    exact .decimal form

/-- A text is read as what it stands for by the grammar, and not at all if that is nothing. -/
theorem readLiteral?_eq_some_iff
    {literal : Literal} :
    readLiteral? characters = some literal ↔ Denotes characters literal := by
  constructor
  · exact denotes_of_readLiteral?
  · intro denotes
    cases denotes with
    | nan sign isWord => exact readLiteral?_nan sign isWord
    | infinity sign isWord => exact readLiteral?_infinity sign isWord
    | decimal form => exact readLiteral?_text form

end Literals

end FunctionScript.Decimal
