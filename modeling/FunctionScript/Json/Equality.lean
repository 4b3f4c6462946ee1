import FunctionScript.Json.Basic

namespace FunctionScript.Json

/-!
# Equality of JSON values

Whether two values are the same can be decided: they are if they are of one kind and
have the same content, item by item and member by member.
-/

mutual

def isSame :
    Json →
    Json →
    Bool
  | null, null => true
  | boolean first, boolean second => first == second
  | number first, number second => first == second
  | string first, string second => first == second
  | array first, array second => areSameItems first second
  | object first, object second => areSameMembers first second
  | _, _ => false

def areSameItems :
    List Json →
    List Json →
    Bool
  | [], [] => true
  | first :: rest, second :: others => isSame first second && areSameItems rest others
  | _, _ => false

def areSameMembers :
    List (String × Json) →
    List (String × Json) →
    Bool
  | [], [] => true
  | (name, first) :: rest, (other, second) :: others =>
      name == other && isSame first second && areSameMembers rest others
  | _, _ => false

end

mutual

theorem isSame_iff :
    ∀ first second, isSame first second ↔ first = second
  | null, second => by cases second <;> simp [isSame]
  | boolean first, second => by cases second <;> simp [isSame]
  | number first, second => by cases second <;> simp [isSame]
  | string first, second => by cases second <;> simp [isSame]
  | array first, second => by
      cases second with
      | array others => simpa [isSame] using areSameItems_iff first others
      | null | boolean | number | string | object => simp [isSame]
  | object first, second => by
      cases second with
      | object others => simpa [isSame] using areSameMembers_iff first others
      | null | boolean | number | string | array => simp [isSame]

theorem areSameItems_iff :
    ∀ first second, areSameItems first second ↔ first = second
  | [], second => by cases second <;> simp [areSameItems]
  | first :: rest, second => by
      cases second with
      | nil => simp [areSameItems]
      | cons other others =>
          simp [areSameItems, isSame_iff first other, areSameItems_iff rest others]

theorem areSameMembers_iff :
    ∀ first second, areSameMembers first second ↔ first = second
  | [], second => by cases second <;> simp [areSameMembers]
  | (name, first) :: rest, second => by
      cases second with
      | nil => simp [areSameMembers]
      | cons other others =>
          obtain ⟨otherName, otherValue⟩ := other
          simp [areSameMembers, isSame_iff first otherValue,
            areSameMembers_iff rest others]

end

instance : DecidableEq Json :=
  fun first second => decidable_of_iff _ (isSame_iff first second)

end FunctionScript.Json
