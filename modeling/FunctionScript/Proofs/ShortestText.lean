import FunctionScript.Proofs.NumeralText

namespace FunctionScript

/-!
# The shortest text of a number

The scientific text of a number is cut where its exponent begins, and the exponent is read
again. It comes out as the one that was written, so the two ways of writing a number come to
one layout of its shortest digits, which decides by the exponent itself.
-/

namespace Decimal

/-- An integer of 32 bits reads as itself. -/
theorem readInt32?_intText
    {value : Int}
    (inRange : -2147483648 ≤ value ∧ value < 2147483648) :
    readInt32? (intText value) = some value := by
  have small := small_digits value.natAbs
  have notEmpty : natText value.natAbs ≠ [] := by
    simpa [natText] using digits_ne_nil value.natAbs
  have allDigits : (natText value.natAbs).all isDigit :=
    List.all_eq_true.mpr (isDigit_of_mem_map small)
  have spelled : readDigits (natText value.natAbs) = value.natAbs := by
    rw [natText, readDigits_map small, ofDigits_digits]
  have split : splitSign (intText value) = (decide (value < 0), natText value.natAbs) := by
    rw [intText]
    by_cases negative : value < 0
    · rw [if_pos negative, decide_eq_true negative]
      rfl
    · rw [if_neg negative, decide_eq_false negative]
      exact splitSign_text .absent (unsigned_map small (digits_ne_nil value.natAbs))
  have signed :
      (if decide (value < 0) then -(value.natAbs : Int) else value.natAbs) = value := by
    by_cases negative : value < 0
    · rw [if_pos (decide_eq_true negative)]
      omega
    · rw [if_neg (by simpa using negative)]
      omega
  simp only [readInt32?, split, spelled, signed]
  rw [if_pos ⟨notEmpty, allDigits⟩, if_pos inRange]

theorem mark_not_mem_mantissaText
    (scaled : Scaled) :
    'e' ∉ scaled.mantissaText := by
  have small := small_significantDigits scaled.significand
  have notIn
      {digits : List Nat}
      (sublist : digits.Sublist (significantDigits scaled.significand)) :
      'e' ∉ digits.map digitChar := by
    intro member
    have isDigit := isDigit_of_mem_map (small_of_sublist small sublist) 'e' member
    exact absurd isDigit (by decide)
  rw [Scaled.mantissaText, List.mem_append, not_or]
  refine ⟨notIn (List.take_sublist _ _), ?_⟩
  rw [fractionText.eq_def]
  have notInFraction := notIn (List.drop_sublist 1 _)
  split
  · exact List.not_mem_nil
  · exact absurd ‹_› (by decide)
  · rw [List.mem_cons, not_or]
    exact ⟨by decide, notInFraction⟩

end Decimal

namespace Numeral

open Decimal

/-- A text is cut at the first mark. -/
theorem splitOnce?_append
    {mark : Char}
    {front : List Char}
    (noMark : mark ∉ front)
    (behind : List Char) :
    splitOnce? mark (front ++ mark :: behind) = some (front, behind) := by
  have notMark : ∀ character ∈ front, (character != mark) = true := by
    intro character member
    rw [bne_iff_ne]
    rintro rfl
    exact noMark member
  rw [splitOnce?, List.dropWhile_append_of_pos notMark, List.takeWhile_append_of_pos notMark]
  simp

/-- The layout that the two ways of writing a number come to. -/
def shortestLayout : Layout where
  tie := .upward
  leastPlain := -4
  greatestPlain := 5
  keepsFraction := false
  exponentWidth := 2

theorem isPlain_shortestLayout
    {exponent : Int} :
    shortestLayout.isPlain exponent ↔ -4 ≤ exponent ∧ exponent < 6 := by
  rw [Layout.isPlain, Bool.and_eq_true, decide_eq_true_iff, decide_eq_true_iff]
  simp only [shortestLayout]
  omega

theorem splitOnce?_scientific
    (negative : Bool)
    (magnitude : Magnitude) :
    splitOnce? 'e' (scientific (.finite negative magnitude)).toList =
      some
        (signText negative ++ (Decimal.shortest .upward magnitude).mantissaText,
          intText (Decimal.shortest .upward magnitude).leadingExponent) := by
  have noMark :
      'e' ∉ signText negative ++ (Decimal.shortest .upward magnitude).mantissaText := by
    rw [List.mem_append, not_or]
    exact ⟨by cases negative <;> decide, mark_not_mem_mantissaText _⟩
  rw [scientific, written, String.toList_ofList, Scaled.scientificText, ← List.append_assoc]
  exact splitOnce?_append noMark _

/-- The shortest text of a finite number has its digits in one layout. -/
theorem shortest_finite
    (negative : Bool)
    (magnitude : Magnitude) :
    shortest (.finite negative magnitude) =
      String.ofList (shortestLayout.text negative magnitude) := by
  have bound := natAbs_leadingExponent_shortest_lt .upward magnitude
  have again :=
    readInt32?_intText
      (show _ ∧ (Decimal.shortest .upward magnitude).leadingExponent < _ by omega)
  simp only [shortest, splitOnce?_scientific, again]
  rw [Layout.text, show shortestLayout.tie = .upward from rfl]
  by_cases near :
      -4 ≤ (Decimal.shortest .upward magnitude).leadingExponent ∧
        (Decimal.shortest .upward magnitude).leadingExponent < 6
  · rw [if_pos near, if_pos (isPlain_shortestLayout.mpr near)]
    rfl
  · rw [if_neg near, if_neg (mt isPlain_shortestLayout.mp near), withExponent, exponentText]
    simp only [Scaled.mantissaText, List.append_assoc]
    rfl

/-- The shortest text of a finite number reads as what its shortest digits stand for. -/
theorem read?_shortest_finite
    (negative : Bool)
    (magnitude : Magnitude) :
    read? (shortest (.finite negative magnitude)) =
      (Magnitude.ofDecimal? (Decimal.shortest shortestLayout.tie magnitude).significand
        (Decimal.shortest shortestLayout.tie magnitude).exponent).map (.finite negative) := by
  rw [read?_eq, shortest_finite, String.toList_ofList, value?_text rfl]

/-- The shortest text of a number is numeric. -/
theorem isSome_read?_shortest
    (number : Binary64) :
    (read? (shortest number)).isSome := by
  cases number with
  | nan => decide
  | infinity negative => cases negative <;> decide
  | finite negative magnitude =>
      rw [read?_shortest_finite, Option.isSome_map]
      exact isSome_shortest shortestLayout.tie magnitude

end Numeral

end FunctionScript
