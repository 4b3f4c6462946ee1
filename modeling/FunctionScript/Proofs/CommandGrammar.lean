import Mathlib.Data.List.Forall2
import FunctionScript.Script

namespace FunctionScript

/-!
# The grammar of commands

Which entries of a function's body are commands is said here without reading one:
they are objects whose member `cmd` is a string, and whose other members have a text
form. Reading an entry succeeds on exactly these, and gives the command whose target
and arguments the members spell.
-/

section Reading

variable
  {read : α → Except ε β}
  {items : List α}

/-- If something is observed of what is read, reading succeeded. -/
theorem exists_eq_ok_of_observed
    {result : Except ε α}
    {observe : α → β}
    {observed : β}
    (seen : result.toOption.map observe = some observed) :
    ∃ value, result = .ok value ∧ observe value = observed := by
  cases result with
  | error failure => cases seen
  | ok value => exact ⟨value, rfl, Option.some.inj seen⟩

/-- Reading a list gives one result for each item, or none at all. -/
theorem mapM_eq_ok_iff
    {results : List β} :
    items.mapM read = .ok results ↔
      List.Forall₂ (fun item result => read item = .ok result) items results := by
  induction items generalizing results with
  | nil => cases results <;> simp [pure, Except.pure]
  | cons first rest inductionHypothesis =>
      rw [List.mapM_cons]
      cases firstRead : read first with
      | error failure => cases results <;> simp [bind, Except.bind, firstRead]
      | ok result =>
          cases restRead : rest.mapM read with
          | error failure =>
              cases results <;>
                simp [bind, Except.bind, ← inductionHypothesis, firstRead, restRead]
          | ok others =>
              cases results <;>
                simp [bind, Except.bind, pure, Except.pure, ← inductionHypothesis,
                  firstRead, restRead]

/-- A list can be read if each of its items can. -/
theorem exists_mapM_eq_ok_iff :
    (∃ results, items.mapM read = .ok results) ↔
      ∀ item ∈ items, ∃ result, read item = .ok result := by
  simp only [mapM_eq_ok_iff]
  induction items with
  | nil => simp
  | cons first rest inductionHypothesis =>
      simp only [List.forall₂_cons_left_iff, List.forall_mem_cons,
        ← inductionHypothesis]
      constructor
      · rintro ⟨_, result, results, firstRead, restRead, rfl⟩
        exact ⟨⟨result, firstRead⟩, results, restRead⟩
      · rintro ⟨⟨result, firstRead⟩, results, restRead⟩
        exact ⟨_, result, results, firstRead, restRead, rfl⟩

/-- Each result stands beside an item. -/
theorem exists_mem_of_forall₂
    {relation : α → β → Prop}
    {results : List β}
    (related : List.Forall₂ relation items results)
    {result : β}
    (member : result ∈ results) :
    ∃ item ∈ items, relation item result := by
  induction related with
  | nil => cases member
  | @cons first firstResult rest restResults firstRelated _ inductionHypothesis =>
      rcases List.mem_cons.mp member with rfl | inRest
      · exact ⟨first, by simp, firstRelated⟩
      · obtain ⟨item, inItems, itemRelated⟩ := inductionHypothesis inRest
        exact ⟨item, by simp [inItems], itemRelated⟩

end Reading

/-- The text form of a string, a number or a boolean; other values have none. -/
inductive Json.HasText :
    Json →
    String →
    Prop where
  | string (text : String) :
      HasText (.string text) text
  | number (found : Json.Number) :
      HasText (.number found) (Numeral.shortest found.toBinary64)
  | true : HasText (.boolean true) "true"
  | false : HasText (.boolean false) "false"

/-- Strings, numbers and booleans. -/
def Json.IsScalar
    (value : Json) :
    Prop :=
  value.kind = .string ∨ value.kind = .number ∨ value.kind = .boolean

theorem Json.scalarText?_eq_some_iff
    {value : Json}
    {text : String} :
    value.scalarText? = some text ↔ value.HasText text := by
  constructor
  · intro hasText
    cases value with
    | string | number =>
        cases hasText
        constructor
    | boolean value => cases value <;> cases hasText <;> constructor
    | null | array | object => cases hasText
  · rintro (_ | _ | _ | _) <;> rfl

theorem Json.exists_hasText_iff
    {value : Json} :
    (∃ text, value.HasText text) ↔ value.IsScalar := by
  simp only [← scalarText?_eq_some_iff]
  cases value <;> simp [scalarText?, IsScalar, kind]

/-- How a text spells where an argument's value comes from; its first character decides. -/
inductive Argument.Source.SpelledBy :
    Source →
    String →
    Prop where
  | param (name : String) :
      SpelledBy (.param name) ("$" ++ name)
  | ref (name : String) :
      SpelledBy (.ref name) ("#" ++ name)
  | literal
      (text : String)
      (noParam : text.toList.head? ≠ some '$')
      (noRef : text.toList.head? ≠ some '#') :
      SpelledBy (.literal text) text

/-- A text that starts with a character is that character and the others. -/
theorem eq_append_of_toList
    {text : String}
    {first : Char}
    {rest : List Char}
    (shape : text.toList = first :: rest) :
    text = String.ofList [first] ++ String.ofList rest := by
  rw [← String.ofList_append, List.singleton_append, ← shape, String.ofList_toList]

/-- Every text spells one source. -/
theorem Argument.Source.spelledBy_iff
    {source : Source}
    {text : String} :
    source.SpelledBy text ↔ source = Source.ofText text := by
  constructor
  · rintro (name | name | ⟨_, noParam, noRef⟩)
    · simp [ofText, paramSigil]
    · simp [ofText, paramSigil, refSigil]
    · rw [ofText]
      cases shape : text.toList with
      | nil => rfl
      | cons first rest =>
          simp only [shape, List.head?_cons, ne_eq, Option.some.injEq] at noParam noRef
          simp [paramSigil, refSigil, noParam, noRef]
  · rintro rfl
    rw [ofText]
    cases shape : text.toList with
    | nil =>
        exact .literal text (by simp [shape]) (by simp [shape])
    | cons first rest =>
        have whole := eq_append_of_toList shape
        by_cases isParam : first = '$'
        · subst isParam
          simp only [paramSigil, ↓reduceIte]
          rw [whole]
          exact .param _
        · by_cases isRef : first = '#'
          · subst isRef
            simp only [paramSigil, refSigil, Char.reduceEq, ↓reduceIte]
            rw [whole]
            exact .ref _
          · simp only [paramSigil, refSigil, isParam, isRef, ↓reduceIte]
            exact .literal text (by simpa [shape] using isParam)
              (by simpa [shape] using isRef)

namespace Command

/-- The target that is written with or without one mark in front. -/
def IsTarget
    (written target : String) :
    Prop :=
  written = "#" ++ target ∨
    (written.toList.head? ≠ some '#' ∧ target = written)

theorem isTarget_iff
    {written target : String} :
    IsTarget written target ↔ target = targetName written := by
  rw [IsTarget, targetName]
  constructor
  · rintro (rfl | ⟨noMark, rfl⟩)
    · simp [Argument.refSigil]
    · cases shape : target.toList with
      | nil => rfl
      | cons first rest =>
          simp only [shape, List.head?_cons, ne_eq, Option.some.injEq] at noMark
          simp [Argument.refSigil, noMark]
  · rintro rfl
    cases shape : written.toList with
    | nil => exact .inr ⟨by simp, rfl⟩
    | cons first rest =>
        by_cases isMark : first = '#'
        · subst isMark
          simpa [Argument.refSigil] using eq_append_of_toList shape
        · simp [Argument.refSigil, isMark]

/-- The members of an object declare the command: one names its target, each other an argument. -/
structure DeclaredBy
    (command : Command)
    (members : List (String × Json)) :
    Prop where
  target :
    ∃ written,
      members.lookup targetKey = some (.string written) ∧
        IsTarget written command.target
  arguments :
    List.Forall₂
      (fun (member : String × Json) (argument : Argument) =>
        argument.name = member.1 ∧
          ∃ text, member.2.HasText text ∧ argument.source.SpelledBy text)
      (members.filter fun member => member.1 != targetKey)
      command.arguments

/-- Members in ascending order declare arguments in ascending order. -/
theorem DeclaredBy.ascending
    {command : Command}
    {members : List (String × Json)}
    (declared : command.DeclaredBy members)
    (ascending : members.Pairwise fun first second => first.1 < second.1) :
    command.arguments.Pairwise fun first second => first.name < second.name := by
  have others := ascending.filter fun member => member.1 != targetKey
  have sameNames :
      command.arguments.map Argument.name =
        (members.filter fun member => member.1 != targetKey).map Prod.fst := by
    have declares := declared.arguments
    generalize members.filter (fun member => member.1 != targetKey) = members at declares
    generalize command.arguments = arguments at declares
    induction declares with
    | nil => rfl
    | cons declares _ inductionHypothesis =>
        rw [List.map_cons, List.map_cons, declares.1, inductionHypothesis]
  rw [← List.pairwise_map (f := Argument.name) (R := (· < ·)), sameNames,
    List.pairwise_map]
  exact others

/-- An entry of a function's body that is a command. -/
def IsEntry
    (entry : Json) :
    Prop :=
  ∃ members written,
    entry = .object members ∧
      members.lookup targetKey = some (.string written) ∧
      ∀ member ∈ members, member.1 ≠ targetKey → member.2.IsScalar

theorem ofMember_eq_ok_iff
    {target : String}
    {member : String × Json}
    {argument : Argument} :
    Argument.ofMember target member = .ok argument ↔
      argument.name = member.1 ∧
        ∃ text, member.2.HasText text ∧ argument.source.SpelledBy text := by
  simp only [← Json.scalarText?_eq_some_iff, Argument.Source.spelledBy_iff,
    Argument.ofMember, Argument.ofText]
  obtain ⟨name, source⟩ := argument
  cases member.2.scalarText? <;> simp [eq_comm]

/-- Members are read as a command by their target and what is read of the others. -/
theorem ofMembers_eq_ok_iff_mapM
    {function : String}
    {members : List (String × Json)}
    {command : Command} :
    ofMembers function members = .ok command ↔
      ∃ written arguments,
        members.lookup targetKey = some (.string written) ∧
          (members.filter fun member => member.1 != targetKey).mapM
              (Argument.ofMember written) =
            .ok arguments ∧
          ofTarget written arguments = command := by
  simp only [ofMembers]
  cases members.lookup targetKey with
  | none => simp
  | some value =>
      cases value with
      | string written =>
          simp only [bind, Except.bind, pure, Except.pure, Option.some.injEq,
            Json.string.injEq, exists_and_left, exists_eq_left']
          cases (members.filter fun member => member.1 != targetKey).mapM
              (Argument.ofMember written) <;>
            simp
      | null | boolean | number | array | object => simp

theorem ofMembers_eq_ok_iff
    {function : String}
    {members : List (String × Json)}
    {command : Command} :
    ofMembers function members = .ok command ↔ command.DeclaredBy members := by
  simp only [ofMembers_eq_ok_iff_mapM, mapM_eq_ok_iff, ofMember_eq_ok_iff]
  constructor
  · rintro ⟨written, arguments, isString, declared, rfl⟩
    exact ⟨⟨written, isString, isTarget_iff.mpr rfl⟩, declared⟩
  · rintro ⟨⟨written, isString, isTarget⟩, declared⟩
    refine ⟨written, command.arguments, isString, declared, ?_⟩
    rw [ofTarget, ← isTarget_iff.mp isTarget]

/-- Objects whose members declare a command are read as that command. -/
theorem ofEntry_eq_ok_iff
    {function : String}
    {entry : Json}
    {command : Command} :
    ofEntry function entry = .ok command ↔
      ∃ members, entry = .object members ∧ command.DeclaredBy members := by
  cases entry with
  | object members => simp [ofEntry, ofMembers_eq_ok_iff]
  | null | boolean | number | string | array => simp [ofEntry]

/-- A member can be read as an argument if it has a text form. -/
theorem exists_ofMember_iff
    {target : String}
    {member : String × Json} :
    (∃ argument, Argument.ofMember target member = .ok argument) ↔
      member.2.IsScalar := by
  rw [← Json.exists_hasText_iff]
  simp only [ofMember_eq_ok_iff, Argument.Source.spelledBy_iff]
  constructor
  · rintro ⟨_, _, text, hasText, _⟩
    exact ⟨text, hasText⟩
  · rintro ⟨text, hasText⟩
    exact ⟨⟨member.1, .ofText text⟩, rfl, text, hasText, rfl⟩

/-- The commands are exactly the entries that can be read. -/
theorem exists_ofEntry_iff
    {function : String}
    {entry : Json} :
    (∃ command, ofEntry function entry = .ok command) ↔ IsEntry entry := by
  have othersIff
      (written : String)
      (members : List (String × Json)) :
      (∃ arguments,
          (members.filter fun member => member.1 != targetKey).mapM
              (Argument.ofMember written) =
            .ok arguments) ↔
        ∀ member ∈ members, member.1 ≠ targetKey → member.2.IsScalar := by
    simp [exists_mapM_eq_ok_iff, exists_ofMember_iff]
  cases entry with
  | object members =>
      simp only [ofEntry, ofMembers_eq_ok_iff_mapM, IsEntry]
      constructor
      · rintro ⟨_, written, arguments, isString, others, _⟩
        exact ⟨members, written, rfl, isString,
          (othersIff written members).mp ⟨arguments, others⟩⟩
      · rintro ⟨_, written, same, isString, scalars⟩
        cases same
        obtain ⟨arguments, others⟩ := (othersIff written members).mpr scalars
        exact ⟨_, written, arguments, isString, others, rfl⟩
  | null | boolean | number | string | array => simp [ofEntry, IsEntry]

end Command

end FunctionScript
