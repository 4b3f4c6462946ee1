import FunctionScript.Json.Equality
import FunctionScript.Proofs.ByteOrder
import FunctionScript.Proofs.MemberOrder

namespace FunctionScript

/-!
# The first fault of a script

A document may be in error at many places at once. Which of them a script's failure
is about is said here without reading anything: the declaration whose name comes
first in the order of bytes, its first entry that is no command, and in that entry a
target before any argument, and of the arguments the one whose name comes first. That
`init` is missing is the failure only where nothing else is in error.
-/

section Reading

variable
  {read : α → Except ε β}
  {items : List α}
  {failure : ε}

theorem mapM_cons_eq_error_iff
    {first : α}
    {rest : List α} :
    (first :: rest).mapM read = .error failure ↔
      read first = .error failure ∨
        ((∃ result, read first = .ok result) ∧ rest.mapM read = .error failure) := by
  rw [List.mapM_cons]
  cases read first with
  | error found => simp [bind, Except.bind]
  | ok result =>
      cases rest.mapM read <;>
        simp [bind, Except.bind, pure, Except.pure]

/-- Reading a list fails as its first item does that cannot be read. -/
theorem mapM_eq_error_iff :
    items.mapM read = .error failure ↔
      ∃ before item after,
        items = before ++ item :: after ∧
          (∀ earlier ∈ before, ∃ result, read earlier = .ok result) ∧
          read item = .error failure := by
  induction items with
  | nil => simp [pure, Except.pure]
  | cons first rest inductionHypothesis =>
      rw [mapM_cons_eq_error_iff, inductionHypothesis]
      constructor
      · rintro (failed | ⟨firstRead, before, item, after, rfl, sound, failed⟩)
        · exact ⟨[], first, rest, rfl, by simp, failed⟩
        · exact ⟨first :: before, item, after, rfl, by simpa using ⟨firstRead, sound⟩,
            failed⟩
      · rintro ⟨before, item, after, split, sound, failed⟩
        cases before with
        | nil =>
            obtain ⟨rfl, rfl⟩ := List.cons.inj split
            exact .inl failed
        | cons earlier others =>
            obtain ⟨rfl, rfl⟩ := List.cons.inj split
            exact .inr ⟨sound first (by simp), others, item, after, rfl,
              fun other member => sound other (by simp [member]), failed⟩

/-- Of items in ascending order, the first that cannot be read has the smallest name. -/
theorem mapM_eq_error_iff_of_ascending
    {name : α → String}
    (ascending : items.Pairwise fun first second => name first < name second) :
    items.mapM read = .error failure ↔
      ∃ item ∈ items,
        read item = .error failure ∧
          ∀ other ∈ items,
            (¬∃ result, read other = .ok result) →
              Text.bytes (name item) ≤ Text.bytes (name other) := by
  simp only [mapM_eq_error_iff, Text.bytes_le_bytes_iff]
  constructor
  · rintro ⟨before, item, after, rfl, sound, failed⟩
    refine ⟨item, by simp, failed, ?_⟩
    intro other member unread
    rcases List.mem_append.mp member with inBefore | fromItem
    · exact absurd (sound other inBefore) unread
    · rcases List.mem_cons.mp fromItem with rfl | inAfter
      · exact le_refl _
      · have fromItemOn := (List.pairwise_append.mp ascending).2.1
        exact le_of_lt ((List.pairwise_cons.mp fromItemOn).1 other inAfter)
  · rintro ⟨item, member, failed, smallest⟩
    obtain ⟨before, after, rfl⟩ := List.append_of_mem member
    refine ⟨before, item, after, rfl, ?_, failed⟩
    intro earlier inBefore
    by_contra unread
    have comesFirst : name earlier < name item :=
      (List.pairwise_append.mp ascending).2.2 earlier inBefore item (by simp)
    exact absurd (smallest earlier (by simp [inBefore]) unread) (not_le.mpr comesFirst)

end Reading

namespace Command

/-- What is wrong with the members of an object that declare no command. -/
inductive MembersFault
    (function : String)
    (members : List (String × Json)) :
    Failure →
    Prop where
  | targetMissing
      (missing : members.lookup targetKey = none) :
      MembersFault function members (.invalidCommand function .targetMissing)
  | targetNotText
      {target : Json}
      (found : members.lookup targetKey = some target)
      (notText : target.kind ≠ .string) :
      MembersFault function members
        (.invalidCommand function (.targetNotText target.kind))
  | argument
      {target name : String}
      {value : Json}
      (isText : members.lookup targetKey = some (.string target))
      (member : (name, value) ∈ members)
      (isArgument : name ≠ targetKey)
      (noScalar : ¬value.IsScalar)
      (smallest :
        ∀ other ∈ members,
          other.1 ≠ targetKey →
            ¬other.2.IsScalar →
              Text.bytes name ≤ Text.bytes other.1) :
      MembersFault function members (.invalidArgument target name value.kind)

/-- What is wrong with an entry of a function's body that is no command. -/
inductive EntryFault
    (function : String) :
    Json →
    Failure →
    Prop where
  | notAnObject
      {entry : Json}
      (noObject : entry.kind ≠ .object) :
      EntryFault function entry (.invalidCommand function (.notAnObject entry))
  | members
      {members : List (String × Json)}
      {failure : Failure}
      (fault : MembersFault function members failure) :
      EntryFault function (.object members) failure

variable
  {function : String}
  {failure : Failure}

theorem ofMember_eq_error_iff
    {target : String}
    {member : String × Json} :
    Argument.ofMember target member = .error failure ↔
      ¬member.2.IsScalar ∧
        failure = .invalidArgument target member.1 member.2.kind := by
  rw [← @exists_ofMember_iff target]
  simp only [Argument.ofMember]
  cases member.2.scalarText? <;> simp [eq_comm]

/-- Reading members fails for want of a target, at a target that is no text, or at an argument. -/
theorem ofMembers_eq_error_iff_mapM
    {members : List (String × Json)} :
    ofMembers function members = .error failure ↔
      (members.lookup targetKey = none ∧
          failure = .invalidCommand function .targetMissing) ∨
      (∃ target,
        members.lookup targetKey = some target ∧
          target.kind ≠ .string ∧
          failure = .invalidCommand function (.targetNotText target.kind)) ∨
      (∃ target,
        members.lookup targetKey = some (.string target) ∧
          (members.filter fun member => member.1 != targetKey).mapM
              (Argument.ofMember target) =
            .error failure) := by
  simp only [ofMembers]
  cases members.lookup targetKey with
  | none => simp [eq_comm]
  | some value =>
      cases value with
      | string target =>
          simp only [bind, Except.bind, pure, Except.pure, Option.some.injEq,
            Json.string.injEq, exists_eq_left']
          cases (members.filter fun member => member.1 != targetKey).mapM
              (Argument.ofMember target) <;>
            simp [Json.kind]
      | null | boolean | number | array | object => simp [Json.kind, eq_comm]

/-- Of members in ascending order, the first that is no argument has the smallest name. -/
theorem arguments_eq_error_iff
    {target : String}
    {members : List (String × Json)}
    (ascending : members.Pairwise fun first second => first.1 < second.1) :
    (members.filter fun member => member.1 != targetKey).mapM
          (Argument.ofMember target) =
        .error failure ↔
      ∃ member ∈ members,
        member.1 ≠ targetKey ∧
          ¬member.2.IsScalar ∧
          (∀ other ∈ members,
            other.1 ≠ targetKey →
              ¬other.2.IsScalar →
                Text.bytes member.1 ≤ Text.bytes other.1) ∧
          failure = .invalidArgument target member.1 member.2.kind := by
  rw [mapM_eq_error_iff_of_ascending (ascending.filter _)]
  simp only [ofMember_eq_error_iff, exists_ofMember_iff, List.mem_filter, bne_iff_ne,
    and_imp]
  grind

/-- Reading members in ascending order fails at the target, or else at the first argument. -/
theorem ofMembers_eq_error_iff
    {members : List (String × Json)}
    (ascending : members.Pairwise fun first second => first.1 < second.1) :
    ofMembers function members = .error failure ↔
      MembersFault function members failure := by
  rw [ofMembers_eq_error_iff_mapM]
  simp only [arguments_eq_error_iff ascending]
  constructor
  · rintro (⟨missing, rfl⟩ | ⟨target, found, notText, rfl⟩ |
      ⟨target, isText, ⟨name, value⟩, member, isArgument, noScalar, smallest, rfl⟩)
    · exact .targetMissing missing
    · exact .targetNotText found notText
    · exact .argument isText member isArgument noScalar smallest
  · rintro (missing | ⟨found, notText⟩ |
      ⟨isText, member, isArgument, noScalar, smallest⟩)
    · exact .inl ⟨missing, rfl⟩
    · exact .inr (.inl ⟨_, found, notText, rfl⟩)
    · exact .inr (.inr ⟨_, isText, _, member, isArgument, noScalar, smallest, rfl⟩)

/-- The entries of a body that are objects with their members in ascending order fail alike. -/
theorem ofEntry_eq_error_iff
    {entry : Json}
    (ascending :
      ∀ members,
        entry = .object members →
          members.Pairwise fun first second => first.1 < second.1) :
    ofEntry function entry = .error failure ↔ EntryFault function entry failure := by
  cases entry with
  | object members =>
      rw [ofEntry, ofMembers_eq_error_iff (ascending members rfl)]
      constructor
      · exact .members
      · rintro (noObject | fault)
        · exact absurd rfl noObject
        · exact fault
  | null | boolean | number | string | array =>
      simp only [ofEntry, Except.error.injEq]
      constructor
      · rintro rfl
        exact .notAnObject (by simp [Json.kind])
      · rintro ⟨_⟩
        rfl

end Command

namespace Declaration

/-- What is wrong with a declaration that is in error. -/
inductive Fault
    (name : String) :
    Json →
    Failure →
    Prop where
  | notANumber
      {text : String}
      (noNumber : Numeral.read? text = none) :
      Fault name (.string text) (.notANumber name text)
  | entry
      {before after : List Json}
      {entry : Json}
      {failure : Failure}
      (sound : ∀ earlier ∈ before, Command.IsEntry earlier)
      (fault : Command.EntryFault name entry failure) :
      Fault name (.array (before ++ entry :: after)) failure

variable
  {name : String}
  {failure : Failure}

theorem ofJson_eq_error_iff
    {value : Json}
    (ascending :
      ∀ entries members,
        value = .array entries →
          Json.object members ∈ entries →
            members.Pairwise fun first second => first.1 < second.1) :
    ofJson name value = .error failure ↔ Fault name value failure := by
  cases value with
  | array entries =>
      have entriesFail :
          ofJson name (.array entries) = .error failure ↔
            entries.mapM (Command.ofEntry name) = .error failure := by
        simp only [ofJson, bind, Except.bind, pure, Except.pure]
        cases entries.mapM (Command.ofEntry name) <;> simp
      rw [entriesFail, mapM_eq_error_iff]
      simp only [Command.exists_ofEntry_iff]
      constructor
      · rintro ⟨before, entry, after, rfl, sound, failed⟩
        refine .entry sound ((Command.ofEntry_eq_error_iff ?_).mp failed)
        rintro members rfl
        exact ascending _ members rfl (by simp)
      · rintro ⟨_⟩
        rename_i before after entry sound fault
        refine ⟨before, entry, after, rfl, sound,
          (Command.ofEntry_eq_error_iff ?_).mpr fault⟩
        rintro members rfl
        exact ascending _ members rfl (by simp)
  | string text =>
      simp only [ofJson]
      cases numeric : Numeral.read? text with
      | none =>
          simp only [Option.isSome_none, Bool.false_eq_true, ↓reduceIte,
            Except.error.injEq]
          constructor
          · rintro rfl
            exact .notANumber numeric
          · rintro ⟨_⟩
            rfl
      | some value =>
          simp only [Option.isSome_some, ↓reduceIte, reduceCtorEq, false_iff]
          rintro ⟨noNumber⟩
          simp [numeric] at noNumber
  | null | boolean | number | object =>
      simp only [ofJson, reduceCtorEq, false_iff]
      rintro ⟨_⟩

end Declaration

namespace Script

/-- The failure that a document which is no script has to be refused with. -/
inductive FaultOf
    (document : Table Json) :
    Failure →
    Prop where
  | declaration
      {name : String}
      {value : Json}
      {failure : Failure}
      (found : document[name]? = some value)
      (fault : Declaration.Fault name value failure)
      (smallest :
        ∀ (other : String) (value : Json),
          document[other]? = some value →
            ¬value.IsDeclaration →
              Text.bytes name ≤ Text.bytes other) :
      FaultOf document failure
  | missingInit
      (sound :
        ∀ (name : String) (value : Json),
          document[name]? = some value → value.IsDeclaration)
      (noInit :
        ∀ entries : List Json, document[initName]? ≠ some (.array entries)) :
      FaultOf document .missingInit

/-- What is wrong with a document concerns its structure. -/
theorem FaultOf.kind
    {document : Table Json}
    {failure : Failure}
    (fault : FaultOf document failure) :
    failure.kind = .structural := by
  cases fault with
  | missingInit => rfl
  | declaration _ inDeclaration _ =>
      cases inDeclaration with
      | notANumber => rfl
      | entry _ inEntry =>
          cases inEntry with
          | notAnObject => rfl
          | members inMembers => cases inMembers <;> rfl

theorem readDeclaration_eq_error_iff
    {member : String × Json}
    {failure : Failure} :
    readDeclaration member = .error failure ↔
      Declaration.ofJson member.1 member.2 = .error failure := by
  rw [readDeclaration]
  cases Declaration.ofJson member.1 member.2 <;> simp [Except.map]

theorem exists_readDeclaration_iff
    {member : String × Json} :
    (∃ entry, readDeclaration member = .ok entry) ↔ member.2.IsDeclaration := by
  rw [← @Declaration.exists_ofJson_iff member.1, readDeclaration]
  cases Declaration.ofJson member.1 member.2 <;> simp [Except.map]

/-- A document is refused while its declarations are read, or for want of `init`. -/
theorem ofDeclarations_eq_error_iff
    {document : Table Json}
    {failure : Failure} :
    ofDeclarations document = .error failure ↔
      document.toList.mapM readDeclaration = .error failure ∨
        ((∃ declared, document.toList.mapM readDeclaration = .ok declared) ∧
          (∀ script, ofDeclarations document ≠ .ok script) ∧
          failure = .missingInit) := by
  rw [ofDeclarations]
  cases document.toList.mapM readDeclaration with
  | error found => simp [bind, Except.bind]
  | ok declared =>
      simp only [bind, Except.bind, pure, Except.pure, throw, throwThe,
        MonadExceptOf.throw]
      split <;> simp [eq_comm]

/-- Documents are refused with the failure of their first fault, and with no other. -/
theorem ofDeclarations_eq_error_iff_faultOf
    {document : Table Json}
    {failure : Failure}
    (ascending :
      ∀ (name : String) (entries : List Json) (members : List (String × Json)),
        document[name]? = some (.array entries) →
          Json.object members ∈ entries →
            members.Pairwise fun first second => first.1 < second.1) :
    ofDeclarations document = .error failure ↔ FaultOf document failure := by
  have declarationFails :
      document.toList.mapM readDeclaration = .error failure ↔
        ∃ name value,
          document[name]? = some value ∧
            Declaration.Fault name value failure ∧
            ∀ (other : String) (value : Json),
              document[other]? = some value →
                ¬value.IsDeclaration →
                  Text.bytes name ≤ Text.bytes other := by
    rw [mapM_eq_error_iff_of_ascending document.ascending_names]
    simp only [exists_readDeclaration_iff, readDeclaration_eq_error_iff]
    simp only [Prod.exists, Prod.forall,
      Std.ExtTreeMap.mem_toList_iff_getElem?_eq_some]
    refine exists₂_congr fun name value => and_congr_right fun found => ?_
    rw [Declaration.ofJson_eq_error_iff]
    rintro entries members rfl
    exact ascending name entries members found
  have allSound :
      (∃ declared, document.toList.mapM readDeclaration = .ok declared) ↔
        ∀ (name : String) (value : Json),
          document[name]? = some value → value.IsDeclaration := by
    simp only [exists_mapM_eq_ok_iff, exists_readDeclaration_iff, Prod.forall,
      Std.ExtTreeMap.mem_toList_iff_getElem?_eq_some]
  have isScript :
      (∃ script, ofDeclarations document = .ok script) ↔ IsGrammatical document :=
    exists_ofDeclarations_iff
  rw [ofDeclarations_eq_error_iff, declarationFails, allSound, ← not_exists, isScript]
  constructor
  · rintro (⟨name, value, found, fault, smallest⟩ | ⟨sound, noScript, rfl⟩)
    · exact .declaration found fault smallest
    · refine .missingInit sound fun entries isInit => noScript ?_
      exact ⟨⟨entries, isInit⟩, fun _ _ => sound _ _, fun _ _ => sound _ _⟩
  · rintro (⟨found, fault, smallest⟩ | ⟨sound, noInit⟩)
    · exact .inl ⟨_, _, found, fault, smallest⟩
    · refine .inr ⟨sound, fun grammatical => ?_, rfl⟩
      obtain ⟨entries, isInit⟩ := grammatical.init
      exact noInit entries isInit

/-- A source is refused because it is no document, or with the first fault of the document. -/
theorem ofSource_eq_error_iff
    {source : ByteArray}
    {failure : Failure} :
    ofSource source = .error failure ↔
      (∃ error,
        Json.membersOfDocument source = .error error ∧ failure = .malformed error) ∨
        ∃ members,
          Json.membersOfDocument source = .ok members ∧
            FaultOf (Json.declarations members) failure := by
  cases read : Json.membersOfDocument source with
  | error found => simp [ofSource, readDocument, read, Except.bind, eq_comm]
  | ok members =>
      have sorted := fun name entries inner =>
        @Json.ascending_of_declarations members name entries inner
      rw [ofSource_eq_ofDeclarations read, ofDeclarations_eq_error_iff_faultOf sorted]
      simp

/--
The order of members does not matter: documents that differ in nothing else give the
same script or the same failure. A document that is an object is refused exactly if
it has a fault, and then the failure is its first one: that of the smallest name in
error, there of the first entry in error, there of the target or else of the smallest
argument; that `init` is missing is the failure if nothing else is in error.
-/
theorem ofSource_fails_at_first_fault :
    (∀ first second,
      Json.DifferInOrder first second → ofSource first = ofSource second) ∧
    ∀ source members,
      Json.membersOfDocument source = .ok members →
        ∀ failure,
          ofSource source = .error failure ↔
            FaultOf (Json.declarations members) failure := by
  constructor
  · intro first second differ
    rw [ofSource, ofSource, readDocument_of_differInOrder differ]
  · intro source members read failure
    simp [ofSource_eq_error_iff, read]

/-- A document in error in three declarations, in one of them in two entries. -/
def severalFaults : ByteArray :=
  "\x7b\"b\": \"word\", \"a\": [\x7b\"cmd\": \"print\"\x7d, \x7b\"z\": [], \"y\": \x7b\"q\": true, \"p\": null\x7d, \"cmd\": \"#print\"\x7d, true], \"c\": [null]\x7d".toUTF8

/-- The document with its own members, those of a command and those of an argument exchanged. -/
def severalFaultsReordered : ByteArray :=
  "\x7b\"a\": [\x7b\"cmd\": \"print\"\x7d, \x7b\"y\": \x7b\"p\": null, \"q\": true\x7d, \"z\": [], \"cmd\": \"#print\"\x7d, true], \"b\": \"word\", \"c\": [null]\x7d".toUTF8

/-- Both are refused for the smaller argument in the first faulty entry of the smallest name. -/
theorem severalFaults_refused :
    Json.DifferInOrder severalFaults severalFaultsReordered ∧
      (∃ members,
        Json.membersOfDocument severalFaults = .ok members ∧
          FaultOf (Json.declarations members) (.invalidArgument "#print" "y" .object)) ∧
      ofSource severalFaultsReordered =
        .error (.invalidArgument "#print" "y" .object) := by
  have firstRead :
      Json.ofDocument severalFaults =
        .ok
          (.object
            [("b", .string "word"),
              ("a",
                .array
                  [.object [("cmd", .string "print")],
                    .object
                      [("z", .array []),
                        ("y", .object [("q", .boolean true), ("p", .null)]),
                        ("cmd", .string "#print")],
                    .boolean true]),
              ("c", .array [.null])]) := by
    decide +kernel
  have secondRead :
      Json.ofDocument severalFaultsReordered =
        .ok
          (.object
            [("a",
                .array
                  [.object [("cmd", .string "print")],
                    .object
                      [("y", .object [("p", .null), ("q", .boolean true)]),
                        ("z", .array []),
                        ("cmd", .string "#print")],
                    .boolean true]),
              ("b", .string "word"),
              ("c", .array [.null])]) := by
    decide +kernel
  have sameFront :
      severalFaults.toList.takeWhile Json.isBlank =
        severalFaultsReordered.toList.takeWhile Json.isBlank := by
    decide +kernel
  have refusal :
      (match ofSource severalFaultsReordered with
        | .error (.invalidArgument command argument kind) => some (command, argument, kind)
        | _ => none) =
        some ("#print", "y", .object) := by
    decide +kernel
  have failed :
      ofSource severalFaultsReordered =
        .error (.invalidArgument "#print" "y" .object) := by
    split at refusal <;> cases refusal
    assumption
  have differ : Json.DifferInOrder severalFaults severalFaultsReordered := by
    refine ⟨⟨_, _, firstRead, secondRead, ?_⟩, sameFront, ?_⟩
    · refine .head (.members [] _ ("b", _) ("a", _) (by simp)) ?_
      apply Json.Reordered.inMember [] [("b", .string "word"), ("c", .array [.null])] "a"
      apply Json.Reordered.inItem [.object [("cmd", .string "print")]] [.boolean true]
      refine .head (.members [] _ ("z", _) ("y", _) (by simp)) ?_
      apply Json.Reordered.inMember [] [("z", .array []), ("cmd", .string "#print")] "y"
      exact .single (.members [] [] ("q", .boolean true) ("p", .null) (by decide))
    · intro value read _ noObject
      rw [firstRead] at read
      cases read
      exact absurd rfl noObject
  obtain ⟨sameResult, failsExactly⟩ := ofSource_fails_at_first_fault
  have membersRead := Json.membersOfDocument_of_object firstRead
  have firstFailed := (sameResult _ _ differ).trans failed
  exact ⟨differ, ⟨_, membersRead, (failsExactly _ _ membersRead _).mp firstFailed⟩, failed⟩

end Script

end FunctionScript
