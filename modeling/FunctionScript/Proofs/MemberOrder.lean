import Mathlib.Data.List.Forall2
import Mathlib.Logic.Relation
import FunctionScript.Proofs.ScriptGrammar

namespace FunctionScript

/-!
# The order of members

Members of distinct names may change places in any object of a document, however deep
it is nested. The values then have the same canonical form, and what is read of the
documents as scripts is the same, failures with their places included.
-/

open Relation

namespace Json

/-- Two neighbouring members of distinct names change places in one object of the value. -/
inductive Exchange :
    Json →
    Json →
    Prop where
  | members
      (before after : List (String × Json))
      (first second : String × Json)
      (distinct : first.1 ≠ second.1) :
      Exchange
        (.object (before ++ first :: second :: after))
        (.object (before ++ second :: first :: after))
  | inMember
      (before after : List (String × Json))
      (name : String)
      {value other : Json}
      (exchange : Exchange value other) :
      Exchange
        (.object (before ++ (name, value) :: after))
        (.object (before ++ (name, other) :: after))
  | inItem
      (before after : List Json)
      {value other : Json}
      (exchange : Exchange value other) :
      Exchange
        (.array (before ++ value :: after))
        (.array (before ++ other :: after))

/-- The values differ only in the order of members of distinct names. -/
def Reordered :
    Json →
    Json →
    Prop :=
  ReflTransGen Exchange

namespace Reordered

section Nesting

variable
  {value other : Json}

theorem inMember
    (before after : List (String × Json))
    (name : String)
    (reordered : Reordered value other) :
    Reordered
      (.object (before ++ (name, value) :: after))
      (.object (before ++ (name, other) :: after)) := by
  induction reordered with
  | refl => exact .refl
  | tail _ exchange inductionHypothesis =>
      exact inductionHypothesis.tail (.inMember before after name exchange)

theorem inItem
    (before after : List Json)
    (reordered : Reordered value other) :
    Reordered
      (.array (before ++ value :: after))
      (.array (before ++ other :: after)) := by
  induction reordered with
  | refl => exact .refl
  | tail _ exchange inductionHypothesis =>
      exact inductionHypothesis.tail (.inItem before after exchange)

end Nesting

section Members

variable
  {members others : List (String × Json)}

/-- A member moves in front of others that have other names. -/
theorem moveToFront
    (member : String × Json)
    (front after : List (String × Json))
    (distinct : ∀ passed ∈ front, passed.1 ≠ member.1)
    (before : List (String × Json)) :
    Reordered
      (.object (before ++ (front ++ member :: after)))
      (.object (before ++ member :: (front ++ after))) := by
  induction front generalizing before with
  | nil => exact .refl
  | cons passed rest inductionHypothesis =>
      have passedDistinct := distinct passed (by simp)
      have pastRest :=
        inductionHypothesis (fun other inRest => distinct other (by simp [inRest]))
          (before ++ [passed])
      simp only [List.append_assoc, List.cons_append, List.nil_append] at pastRest ⊢
      exact pastRest.tail (.members before (rest ++ after) passed member passedDistinct)

/-- Members of one name, with values that differ only in the order of members. -/
structure AlikeMember
    (member other : String × Json) :
    Prop where
  sameName : member.1 = other.1
  values : Reordered member.2 other.2

/-- The members of each name are alike, in the order in which they stand. -/
def AlikeByName
    (members others : List (String × Json)) :
    Prop :=
  ∀ name : String,
    List.Forall₂ AlikeMember
      (members.filter fun member => member.1 = name)
      (others.filter fun member => member.1 = name)

theorem forall₂_alikeMember_refl
    (members : List (String × Json)) :
    List.Forall₂ AlikeMember members members :=
  List.forall₂_same.mpr fun _ _ => ⟨rfl, .refl⟩

theorem forall₂_trans
    {relation : α → α → Prop}
    (trans :
      ∀ {first second third},
        relation first second → relation second third → relation first third)
    {first second third : List α}
    (left : List.Forall₂ relation first second)
    (right : List.Forall₂ relation second third) :
    List.Forall₂ relation first third := by
  induction left generalizing third with
  | nil => exact right
  | cons related _ inductionHypothesis =>
      cases right with
      | cons otherRelated rest =>
          exact .cons (trans related otherRelated) (inductionHypothesis rest)

theorem AlikeByName.trans
    {middle : List (String × Json)}
    (left : AlikeByName members middle)
    (right : AlikeByName middle others) :
    AlikeByName members others :=
  fun name =>
    forall₂_trans
      (fun first second =>
        ⟨first.sameName.trans second.sameName, ReflTransGen.trans first.values second.values⟩)
      (left name) (right name)

/--
However the members are rearranged, if those of one name keep their order the values
differ only in the order of members of distinct names.
-/
theorem of_alikeByName
    (alike : AlikeByName members others)
    (before : List (String × Json)) :
    Reordered (.object (before ++ members)) (.object (before ++ others)) := by
  induction others generalizing members before with
  | nil =>
      have none : members = [] := by
        rw [List.eq_nil_iff_forall_not_mem]
        intro member isMember
        have listed : member ∈ members.filter fun other => other.1 = member.1 := by
          simpa using isMember
        rw [List.forall₂_nil_right_iff.mp (alike member.1)] at listed
        cases listed
      rw [none]
      exact .refl
  | cons head rest inductionHypothesis =>
      -- The first of the members that have the name of the head is like the head.
      have ofHead := alike head.1
      rw [List.filter_cons_of_pos (by simp)] at ofHead
      obtain ⟨member, later, alikeHead, restAlike, listed⟩ :=
        List.forall₂_cons_right_iff.mp ofHead
      obtain ⟨front, after, rfl, passed, isHead, rfl⟩ := List.filter_eq_cons_iff.mp listed
      have sameName := alikeHead.sameName
      have distinct : ∀ other ∈ front, other.1 ≠ member.1 := by
        intro other inFront
        simpa [sameName] using passed other inFront
      have othersAlike : AlikeByName (front ++ after) rest := by
        intro name
        by_cases isName : head.1 = name
        · subst isName
          have noneInFront : (front.filter fun member => member.1 = head.1) = [] := by
            simpa using passed
          rwa [List.filter_append, noneInFront, List.nil_append]
        · have ofName := alike name
          have notMember : ¬member.1 = name := sameName ▸ isName
          simpa [List.filter_append, List.filter_cons, isName, notMember] using ofName
      have restReordered := inductionHypothesis othersAlike (before ++ [head])
      simp only [List.append_assoc, List.cons_append, List.nil_append] at restReordered
      have valueReordered := inMember before (front ++ after) head.1 alikeHead.values
      rw [← sameName] at valueReordered
      refine (moveToFront member front after distinct before).trans ?_
      exact ReflTransGen.trans valueReordered (by rwa [sameName])

theorem alikeByName_of_exchange
    {value : Json}
    (exchange : Exchange (.object members) value) :
    ∃ others, value = .object others ∧ AlikeByName members others := by
  cases exchange with
  | members before after first second distinct =>
      refine ⟨_, rfl, fun name => ?_⟩
      have same :
          ((before ++ first :: second :: after).filter fun member => member.1 = name) =
            (before ++ second :: first :: after).filter fun member => member.1 = name := by
        by_cases isFirst : first.1 = name
        · have notSecond : ¬second.1 = name := fun isSecond =>
            distinct (isFirst.trans isSecond.symm)
          simp [List.filter_append, List.filter_cons, notSecond]
        · simp [List.filter_append, List.filter_cons, isFirst]
      rw [same]
      exact forall₂_alikeMember_refl _
  | inMember before after name exchange =>
      refine ⟨_, rfl, fun name => List.rel_filter ?_ ?_⟩
      · rintro member other ⟨sameName, _⟩
        simp only [sameName]
      · exact List.rel_append (forall₂_alikeMember_refl before)
          (.cons ⟨rfl, .single exchange⟩ (forall₂_alikeMember_refl after))

/-- What it is for objects to differ in the order of members of distinct names only. -/
theorem reordered_object_iff :
    Reordered (.object members) (.object others) ↔ AlikeByName members others := by
  constructor
  · intro reordered
    have isObject :
        ∀ value, Reordered (.object members) value →
          ∃ others, value = .object others ∧ AlikeByName members others := by
      intro value reordered
      induction reordered with
      | refl => exact ⟨members, rfl, fun name => forall₂_alikeMember_refl _⟩
      | tail _ exchange inductionHypothesis =>
          obtain ⟨middle, rfl, alike⟩ := inductionHypothesis
          obtain ⟨others, rfl, alikeBehind⟩ := alikeByName_of_exchange exchange
          exact ⟨others, rfl, alike.trans alikeBehind⟩
    obtain ⟨_, isOther, alike⟩ := isObject _ reordered
    cases isOther
    exact alike
  · exact fun alike => of_alikeByName alike []

end Members

section Items

variable
  {items others : List Json}

theorem of_forall₂_items
    (alike : List.Forall₂ Reordered items others)
    (before : List Json) :
    Reordered (.array (before ++ items)) (.array (before ++ others)) := by
  induction alike generalizing before with
  | nil => exact .refl
  | @cons item other rest _ itemReordered _ inductionHypothesis =>
      have restReordered := inductionHypothesis (before ++ [other])
      simp only [List.append_assoc, List.cons_append, List.nil_append] at restReordered
      exact ReflTransGen.trans (inItem before rest itemReordered) restReordered

/-- Arrays differ in the order of members only as far as their items do. -/
theorem reordered_array_iff :
    Reordered (.array items) (.array others) ↔ List.Forall₂ Reordered items others := by
  constructor
  · intro reordered
    have isArray :
        ∀ value, Reordered (.array items) value →
          ∃ others, value = .array others ∧ List.Forall₂ Reordered items others := by
      intro value reordered
      induction reordered with
      | refl => exact ⟨items, rfl, List.forall₂_same.mpr fun _ _ => .refl⟩
      | tail _ exchange inductionHypothesis =>
          obtain ⟨middle, rfl, alike⟩ := inductionHypothesis
          cases exchange with
          | inItem before after exchange =>
              refine ⟨_, rfl, forall₂_trans ReflTransGen.trans alike ?_⟩
              exact List.rel_append (List.forall₂_same.mpr fun _ _ => .refl)
                (.cons (.single exchange) (List.forall₂_same.mpr fun _ _ => .refl))
    obtain ⟨_, isOther, alike⟩ := isArray _ reordered
    cases isOther
    exact alike
  · exact fun alike => of_forall₂_items alike []

end Items

end Reordered

end Json

/-- Entries of distinct names give the same table in either order. -/
theorem Table.ofEntries_exchange
    (before after : List (String × α))
    {first second : String × α}
    (distinct : first.1 ≠ second.1) :
    ofEntries (before ++ first :: second :: after) =
      ofEntries (before ++ second :: first :: after) := by
  simp only [ofEntries, List.foldl_append, List.foldl_cons]
  congr 1
  apply Std.ExtTreeMap.ext_getElem?
  intro name
  simp only [getElem?_insert_eq]
  by_cases isFirst : first.1 = name
  · subst isFirst
    simp [distinct.symm]
  · simp [isFirst]

/-- Tables that are listed alike are the same. -/
theorem Table.eq_of_toList_eq
    {first second : Table α}
    (same : first.toList = second.toList) :
    first = second := by
  apply Std.ExtTreeMap.ext_getElem?
  intro name
  rw [← lookup_toList, ← lookup_toList, same]

namespace Json

section Canonical

variable
  {value other : Json}

theorem kind_canonical
    (value : Json) :
    value.canonical.kind = value.kind := by
  cases value <;> simp [canonical, kind]

theorem canonical_of_exchange
    (exchange : Exchange value other) :
    value.canonical = other.canonical := by
  induction exchange with
  | members before after first second distinct =>
      simp only [canonical, canonicalMembers_eq_map, List.map_append, List.map_cons]
      rw [Table.ofEntries_exchange]
      exact distinct
  | inMember before after name _ inductionHypothesis =>
      simp only [canonical, canonicalMembers_eq_map, List.map_append, List.map_cons,
        inductionHypothesis]
  | inItem before after _ inductionHypothesis =>
      simp only [canonical, canonicalItems_eq_map, List.map_append, List.map_cons,
        inductionHypothesis]

/-- The order of members is no part of the canonical form. -/
theorem canonical_of_reordered
    (reordered : Reordered value other) :
    value.canonical = other.canonical := by
  induction reordered with
  | refl => rfl
  | tail _ exchange inductionHypothesis =>
      exact inductionHypothesis.trans (canonical_of_exchange exchange)

theorem kind_of_reordered
    (reordered : Reordered value other) :
    value.kind = other.kind := by
  rw [← kind_canonical, canonical_of_reordered reordered, kind_canonical]

theorem declarations_of_reordered
    {members others : List (String × Json)}
    (reordered : Reordered (.object members) (.object others)) :
    declarations members = declarations others := by
  have sameCanonical := canonical_of_reordered reordered
  simp only [canonical, object.injEq] at sameCanonical
  exact Table.eq_of_toList_eq sameCanonical

end Canonical

section Reading

variable
  {bytes : List UInt8}

theorem value_of_readConstant
    {first : UInt8}
    {rest word : List UInt8}
    {value : Json}
    {taken : Taken Json (first :: rest)}
    (read : readConstant first rest word value = .ok taken) :
    taken.value = value := by
  rw [readConstant] at read
  split at read <;> cases read
  rfl

theorem kind_of_readScalar
    {first : UInt8}
    {rest : List UInt8}
    {taken : Taken Json (first :: rest)}
    (read : readScalar first rest = .ok taken) :
    taken.value.kind ≠ .array ∧ taken.value.kind ≠ .object := by
  simp only [readScalar] at read
  split at read
  case h_1 | h_2 | h_3 => simp [value_of_readConstant read, kind]
  case h_4 =>
    split at read <;> cases read
    simp [kind]
  case h_5 =>
    split at read
    · split at read <;> cases read
      simp [kind]
    · cases read

theorem kind_of_readItems
    {readItem : (bytes : List UInt8) → Reading Json bytes}
    {before : List Json}
    {taken : Taken Json bytes}
    (read : readItems readItem before bytes = .ok taken) :
    taken.value.kind = .array := by
  fun_induction readItems readItem before bytes <;> cases read <;>
    simp_all [kind, Taken.widen]

theorem kind_of_readArray
    {readItem : (bytes : List UInt8) → Reading Json bytes}
    {taken : Taken Json bytes}
    (read : readArray readItem bytes = .ok taken) :
    taken.value.kind = .array := by
  rw [readArray] at read
  split at read
  · cases read
  · cases read
    rfl
  · split at read <;> cases read
    rename_i itemsRead
    have isArray := kind_of_readItems itemsRead
    exact isArray

/-- How a value that was read begins: with a bracket, a brace, or neither. -/
inductive BeginsWith
    (depth : Nat)
    (bytes : List UInt8)
    (taken : Taken Json bytes) :
    Prop where
  | bracket
      {rest : List UInt8}
      (front : bytes.dropWhile isBlank = 0x5B :: rest)
      (isArray : taken.value.kind = .array)
  | brace
      {rest : List UInt8}
      {inner : Taken (List (String × Json)) rest}
      (front : bytes.dropWhile isBlank = 0x7B :: rest)
      (membersRead : readObject (readValue (depth - 1)) rest = .ok inner)
      (isObject : taken.value = .object inner.value)
      (sameRest : taken.rest = inner.rest)
  | neither
      (noArray : taken.value.kind ≠ .array)
      (noObject : taken.value.kind ≠ .object)

theorem beginsWith_of_readValue
    {depth : Nat}
    {taken : Taken Json bytes}
    (read : readValue depth bytes = .ok taken) :
    BeginsWith depth bytes taken := by
  rw [readValue.eq_def] at read
  split at read
  · cases read
  · rename_i front
    split at read
    · cases read
    · split at read <;> cases read
      rename_i inner itemsRead
      have isArray := kind_of_readArray itemsRead
      exact .bracket front isArray
  · rename_i front
    split at read
    · cases read
    · split at read <;> cases read
      rename_i inner membersRead
      exact .brace front membersRead rfl rfl
  · split at read <;> cases read
    rename_i inner scalarRead
    obtain ⟨noArray, noObject⟩ := kind_of_readScalar scalarRead
    exact .neither noArray noObject

theorem endOfDocument_eq_ok_iff
    {value found : α} :
    endOfDocument value bytes = .ok found ↔
      bytes.dropWhile isBlank = [] ∧ value = found := by
  rw [endOfDocument]
  split <;> simp_all

/-- The members of a document that is an object can be read as those of a script. -/
theorem readMembersOfDocument_of_object
    {members : List (String × Json)}
    (read : readDocument bytes = .ok (.object members)) :
    readMembersOfDocument bytes = .ok members := by
  rw [readDocument] at read
  split at read
  · cases read
  · rename_i taken valueRead
    obtain ⟨ended, isWhole⟩ := endOfDocument_eq_ok_iff.mp read
    cases beginsWith_of_readValue valueRead with
    | bracket _ isArray =>
        rw [isWhole] at isArray
        cases isArray
    | neither _ noObject =>
        rw [isWhole] at noObject
        exact absurd rfl noObject
    | @brace rest inner front membersRead isObject sameRest =>
        rw [isWhole, object.injEq] at isObject
        subst isObject
        rw [sameRest] at ended
        simp only [readMembersOfDocument, front, membersRead]
        exact endOfDocument_eq_ok_iff.mpr ⟨ended, rfl⟩

/-- A document that is an array is refused as a script at its bracket. -/
theorem readMembersOfDocument_of_array
    {value : Json}
    (read : readDocument bytes = .ok value)
    (isArray : value.kind = .array) :
    ∃ rest,
      bytes.dropWhile isBlank = 0x5B :: rest ∧
        readMembersOfDocument bytes = .error (.upTo (.notAnObject .sequence) rest) := by
  rw [readDocument] at read
  split at read
  · cases read
  · rename_i taken valueRead
    obtain ⟨_, isWhole⟩ := endOfDocument_eq_ok_iff.mp read
    cases beginsWith_of_readValue valueRead with
    | @bracket rest front _ =>
        refine ⟨rest, front, ?_⟩
        simp only [readMembersOfDocument, front]
    | neither noArray _ =>
        rw [isWhole] at noArray
        exact absurd isArray noArray
    | brace _ _ isObject _ =>
        rw [← isWhole, isObject] at isArray
        cases isArray

end Reading

section Documents

variable
  {document : ByteArray}
  {value : Json}

theorem ofDocument_eq_ok_iff :
    ofDocument document = .ok value ↔ readDocument document.toList = .ok value := by
  rw [ofDocument]
  cases readDocument document.toList <;> simp [Except.mapError]

theorem membersOfDocument_of_object
    {members : List (String × Json)}
    (read : ofDocument document = .ok (.object members)) :
    membersOfDocument document = .ok members := by
  have membersRead :=
    readMembersOfDocument_of_object (ofDocument_eq_ok_iff.mp read)
  rw [membersOfDocument, membersRead]
  rfl

/-- The place at which an array is refused depends on what stands in front of it only. -/
theorem membersOfDocument_of_array
    (read : ofDocument document = .ok value)
    (isArray : value.kind = .array) :
    membersOfDocument document =
      .error
        (Halt.inDocument ⟨.notAnObject .sequence, 0, 0⟩
          (document.toList.takeWhile isBlank ++ [0x5B])) := by
  obtain ⟨rest, front, refused⟩ :=
    readMembersOfDocument_of_array (ofDocument_eq_ok_iff.mp read) isArray
  have whole :
      (document.toList.takeWhile isBlank ++ [0x5B]) ++ rest = document.toList := by
    rw [List.append_assoc, List.singleton_append, ← front, List.takeWhile_append_dropWhile]
  have lookedAt :
      document.toList.take (document.toList.length - rest.length) =
        document.toList.takeWhile isBlank ++ [0x5B] := by
    rw [← whole, List.length_append, Nat.add_sub_cancel, List.take_left, whole]
  rw [membersOfDocument, refused]
  simp only [Except.mapError, Halt.inDocument, Halt.upTo, lookedAt, Nat.sub_zero,
    List.take_length]

end Documents

/--
Documents that spell values which differ only in the order of members, with the same
blanks in front of these. A value that is neither an array nor an object has no
members: where the documents spell one, they are the same.
-/
structure DifferInOrder
    (first second : ByteArray) :
    Prop where
  values :
    ∃ value other,
      ofDocument first = .ok value ∧
        ofDocument second = .ok other ∧
        Reordered value other
  front :
    first.toList.takeWhile isBlank = second.toList.takeWhile isBlank
  scalar :
    ∀ value,
      ofDocument first = .ok value →
        value.kind ≠ .array →
          value.kind ≠ .object →
            first = second

/--
Documents of objects differ in the order of members exactly if the members of each name are
alike, in the order in which they stand, and the same blanks stand in front.
-/
theorem differInOrder_objects_iff
    {first second : ByteArray}
    {members others : List (String × Json)}
    (firstRead : ofDocument first = .ok (.object members))
    (secondRead : ofDocument second = .ok (.object others)) :
    DifferInOrder first second ↔
      Reordered.AlikeByName members others ∧
        first.toList.takeWhile isBlank = second.toList.takeWhile isBlank := by
  constructor
  · rintro ⟨⟨value, other, isValue, isOther, reordered⟩, front, _⟩
    cases firstRead.symm.trans isValue
    cases secondRead.symm.trans isOther
    exact ⟨Reordered.reordered_object_iff.mp reordered, front⟩
  · rintro ⟨alike, front⟩
    have reordered := Reordered.reordered_object_iff.mpr alike
    refine ⟨⟨_, _, firstRead, secondRead, reordered⟩, front, ?_⟩
    intro value isValue _ noObject
    cases firstRead.symm.trans isValue
    exact absurd rfl noObject

end Json

/-- What is read of a document as a script does not depend on the order of members. -/
theorem Script.readDocument_of_differInOrder
    {first second : ByteArray}
    (differ : Json.DifferInOrder first second) :
    readDocument first = readDocument second := by
  obtain ⟨value, other, firstRead, secondRead, reordered⟩ := differ.values
  have sameKind := Json.kind_of_reordered reordered
  cases kind : value.kind with
  | array =>
      rw [kind] at sameKind
      rw [readDocument, readDocument, Json.membersOfDocument_of_array firstRead kind,
        Json.membersOfDocument_of_array secondRead sameKind.symm, differ.front]
  | object =>
      cases value <;> cases kind
      cases other <;> cases sameKind
      rw [readDocument, readDocument, Json.membersOfDocument_of_object firstRead,
        Json.membersOfDocument_of_object secondRead]
      simp only [Json.declarations_of_reordered reordered]
  | null | boolean | number | string =>
      rw [differ.scalar value firstRead (by simp [kind]) (by simp [kind])]

end FunctionScript
