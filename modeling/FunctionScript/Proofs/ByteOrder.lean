import Mathlib.Data.String.Basic

namespace FunctionScript.Text

/-!
# The order of texts is the order of their bytes

Names are compared character by character. Characters that come first have UTF-8
bytes that come first, whatever follows them, so comparing the bytes of two texts one
by one gives the same order.
-/

/-- The UTF-8 bytes of a text. -/
def bytes
    (text : String) :
    List UInt8 :=
  text.toUTF8.data.toList

theorem bytes_eq_flatMap
    (text : String) :
    bytes text = text.toList.flatMap String.utf8EncodeChar := by
  rw [bytes, String.toUTF8_eq_toByteArray, ← String.utf8Encode_toList, List.utf8Encode,
    List.data_toByteArray, List.toList_toArray]

theorem codePoint_lt
    (character : Char) :
    character.val.toNat < 0x110000 := by
  have valid := character.valid
  simp only [UInt32.isValidChar, Nat.isValidChar] at valid
  omega

/-- The bytes of the earlier character come first, whatever follows. -/
theorem utf8EncodeChar_append_lt
    {first second : Char}
    (before : first < second)
    (afterFirst afterSecond : List UInt8) :
    String.utf8EncodeChar first ++ afterFirst <
      String.utf8EncodeChar second ++ afterSecond := by
  have smaller : first.val.toNat < second.val.toNat := before
  have firstBound := codePoint_lt first
  have secondBound := codePoint_lt second
  simp only [String.utf8EncodeChar]
  generalize first.val.toNat = firstPoint at smaller firstBound ⊢
  generalize second.val.toNat = secondPoint at smaller secondBound ⊢
  -- Each byte holds the last six bits of what is left by the bytes after it.
  have shifted
      (point : Nat) :
      point / 64 / 64 = point / 4096 ∧ point / 4096 / 64 = point / 262144 := by
    omega
  have firstShifted := shifted firstPoint
  have secondShifted := shifted secondPoint
  split_ifs <;>
    simp only [List.cons_append, List.nil_append, List.cons_lt_cons_iff,
      UInt8.lt_iff_toNat_lt, ← UInt8.toNat_inj, UInt8.toNat_ofNat'] <;>
    simp (disch := omega) only [Nat.reducePow, Nat.mod_eq_of_lt] <;>
    omega

theorem flatMap_utf8EncodeChar_lt
    {first second : List Char}
    (before : first < second) :
    first.flatMap String.utf8EncodeChar < second.flatMap String.utf8EncodeChar := by
  induction first generalizing second with
  | nil =>
      cases second with
      | nil => exact absurd before (List.lt_irrefl _)
      | cons character rest =>
          obtain ⟨byte, others, encoded⟩ :=
            List.exists_cons_of_ne_nil (String.utf8EncodeChar_ne_nil (c := character))
          rw [List.flatMap_nil, List.flatMap_cons, encoded, List.cons_append]
          exact List.nil_lt_cons _ _
  | cons firstHead firstRest inductionHypothesis =>
      cases second with
      | nil => exact absurd before (List.not_lt_nil _)
      | cons secondHead secondRest =>
          rw [List.flatMap_cons, List.flatMap_cons]
          rcases List.cons_lt_cons_iff.mp before with
            headBefore | ⟨sameHead, restBefore⟩
          · exact utf8EncodeChar_append_lt headBefore _ _
          · rw [sameHead]
            exact List.append_left_lt (inductionHypothesis restBefore)

theorem bytes_lt_of_lt
    {first second : String}
    (before : first < second) :
    bytes first < bytes second := by
  rw [bytes_eq_flatMap, bytes_eq_flatMap]
  exact flatMap_utf8EncodeChar_lt (String.lt_iff_toList_lt.mp before)

/-- One text stands before another exactly if its bytes do. -/
theorem bytes_lt_bytes_iff
    {first second : String} :
    bytes first < bytes second ↔ first < second := by
  refine ⟨fun bytesBefore => ?_, bytes_lt_of_lt⟩
  rcases lt_trichotomy first second with before | same | after
  · exact before
  · rw [same] at bytesBefore
    exact absurd bytesBefore (List.lt_irrefl _)
  · exact absurd (List.lt_trans bytesBefore (bytes_lt_of_lt after)) (List.lt_irrefl _)

theorem bytes_le_bytes_iff
    {first second : String} :
    bytes first ≤ bytes second ↔ first ≤ second := by
  rw [← List.not_lt, bytes_lt_bytes_iff, not_lt]

end FunctionScript.Text
