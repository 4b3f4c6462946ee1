import FunctionScript.Numeral

namespace FunctionScript

/-!
# Reading a number with a check of its range

A text is read as what it spells, which for a decimal beyond the finite range is an
infinity, and is then refused if it came to an infinity without being a word for one. So
the literal of a text decides what it reads as: a word reads as what it says, and a
decimal as the nearest number if that is in range.
-/

namespace Decimal

/-- The binary64 number of a literal; a decimal beyond the finite range has none. -/
def Literal.value? :
    Literal →
    Option Binary64
  | .nan => some .nan
  | .infinity negative => some (.infinity negative)
  | .decimal negative significand exponent =>
      (Magnitude.ofDecimal? significand exponent).map (Binary64.finite negative)

theorem exists_eq_decimal_of_readDecimal?
    {negative : Bool}
    {characters : List Char}
    {literal : Literal}
    (isRead : readDecimal? negative characters = some literal) :
    ∃ significand exponent, literal = .decimal negative significand exponent := by
  simp only [readDecimal?] at isRead
  split at isRead
  case isTrue => cases isRead
  case isFalse =>
    obtain ⟨_, _, rfl⟩ := Option.map_eq_some_iff.mp isRead
    exact ⟨_, _, rfl⟩

theorem snd_splitSign
    (characters : List Char) :
    (splitSign characters).2 = Numeral.withoutSign characters := by
  rw [splitSign.eq_def, Numeral.withoutSign.eq_def]
  repeat' split
  all_goals simp_all

end Decimal

namespace Numeral

open Decimal

variable {text : String}

/-- A text is a word for infinity exactly if it is read as one. -/
theorem spellsInfinity_iff_readLiteral? :
    spellsInfinity text ↔
      ∃ negative, readLiteral? text.toList = some (.infinity negative) := by
  have isWord :
      spellsInfinity text ↔
        lowerCase (splitSign text.toList).2 = ['i', 'n', 'f'] ∨
          lowerCase (splitSign text.toList).2 = ['i', 'n', 'f', 'i', 'n', 'i', 't', 'y'] := by
    rw [spellsInfinity, snd_splitSign, Bool.or_eq_true, decide_eq_true_iff, decide_eq_true_iff]
    rfl
  rw [isWord, readLiteral?]
  simp only
  split
  case isTrue spelled => exact iff_of_true spelled ⟨_, rfl⟩
  case isFalse notSpelled =>
    refine iff_of_false notSpelled ?_
    rintro ⟨negative, isRead⟩
    split at isRead
    · cases isRead
    · obtain ⟨_, _, isDecimal⟩ := exists_eq_decimal_of_readDecimal? isRead
      cases isDecimal

/-- A text reads as the number of its literal. -/
theorem read?_eq
    (text : String) :
    read? text = (readLiteral? text.toList).bind Literal.value? := by
  rw [read?, parse?]
  cases isRead : readLiteral? text.toList with
  | none => rfl
  | some literal =>
      cases literal with
      | nan => rfl
      | infinity negative =>
          have spelled : spellsInfinity text :=
            spellsInfinity_iff_readLiteral?.mpr ⟨negative, isRead⟩
          simp [Literal.value, Literal.value?, spelled]
      | decimal negative significand exponent =>
          have notSpelled : spellsInfinity text = false := by
            rw [Bool.eq_false_iff, Ne, spellsInfinity_iff_readLiteral?, isRead]
            simp
          cases isNearest : Magnitude.ofDecimal? significand exponent <;>
            simp [Literal.value, Literal.value?, isNearest, notSpelled, Binary64.ofMagnitude?,
              Binary64.isInfinite]

end Numeral

end FunctionScript
