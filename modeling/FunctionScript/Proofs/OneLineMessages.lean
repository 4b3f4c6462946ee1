import FunctionScript.Proofs.Batches
import FunctionScript.Proofs.FullSink
import FunctionScript.Proofs.NumeralText

namespace FunctionScript

/-!
# Messages stay on one line

Names, arguments, values and paths come from outside and may hold any character. A
message shows them quoted or as compact text, both of which escape every character
below the space, and its own wording has none. What fails outside, reading a file or
writing output, gives a reason that is shown as it is: if that has no such character,
no message has.
-/

namespace Text

/-- None of the characters is below the space. -/
def NoControl
    (characters : List Char) :
    Prop :=
  ∀ character ∈ characters, 0x20 ≤ character.toNat

instance
    (characters : List Char) :
    Decidable (NoControl characters) :=
  List.decidableBAll (fun (character : Char) => 0x20 ≤ character.toNat) characters

/-- The text has no character below the space: no line break, no tab and no escape. -/
def IsOneLine
    (text : String) :
    Prop :=
  NoControl text.toList

instance
    (text : String) :
    Decidable (IsOneLine text) :=
  inferInstanceAs (Decidable (NoControl text.toList))

section Lists

variable
  {first second : List Char}

@[simp] theorem noControl_nil :
    NoControl [] := by
  simp [NoControl]

@[simp] theorem noControl_cons
    {character : Char} :
    NoControl (character :: first) ↔ 0x20 ≤ character.toNat ∧ NoControl first := by
  simp [NoControl]

@[simp] theorem noControl_append :
    NoControl (first ++ second) ↔ NoControl first ∧ NoControl second := by
  simp [NoControl, or_imp, forall_and]

theorem noControl_flatMap
    {escape : Char → List Char}
    (escapes : ∀ character, NoControl (escape character))
    (characters : List Char) :
    NoControl (characters.flatMap escape) := by
  intro character member
  obtain ⟨origin, _, inEscape⟩ := List.mem_flatMap.mp member
  exact escapes origin character inEscape

end Lists

@[simp] theorem isOneLine_ofList
    {characters : List Char} :
    IsOneLine (String.ofList characters) ↔ NoControl characters := by
  rw [IsOneLine, String.toList_ofList]

@[simp] theorem isOneLine_append
    {first second : String} :
    IsOneLine (first ++ second) ↔ IsOneLine first ∧ IsOneLine second := by
  simp [IsOneLine]

theorem isOneLine_intercalate
    {separator : String}
    {texts : List String}
    (separatorOneLine : IsOneLine separator)
    (oneLine : ∀ text ∈ texts, IsOneLine text) :
    IsOneLine (separator.intercalate texts) := by
  induction texts with
  | nil => simp [IsOneLine]
  | cons first rest inductionHypothesis =>
      have firstOneLine := oneLine first (by simp)
      have restOneLine :=
        inductionHypothesis fun text inRest => oneLine text (by simp [inRest])
      by_cases last : rest = []
      · simpa [last] using firstOneLine
      · rw [String.intercalate_cons_of_ne_nil last]
        exact isOneLine_append.mpr
          ⟨isOneLine_append.mpr ⟨firstOneLine, separatorOneLine⟩, restOneLine⟩

theorem hexDigit_not_control :
    ∀ digit < 16, 0x20 ≤ (hexDigit digit).toNat := by
  decide

theorem noControl_hexDigits
    (value : Nat) :
    NoControl (hexDigits value) := by
  fun_induction hexDigits value with
  | case1 value small => simpa using hexDigit_not_control value small
  | case2 value _ inductionHypothesis =>
      have lastDigit := hexDigit_not_control (value % 16) (Nat.mod_lt _ (by decide))
      simpa using ⟨inductionHypothesis, lastDigit⟩

/-- Between quotes every character below the space is escaped. -/
theorem noControl_quotedChar
    (character : Char) :
    NoControl (quotedChar character) := by
  unfold quotedChar
  split
  case h_7 =>
    split <;> rename_i hidden
    · simpa using noControl_hexDigits character.toNat
    · have shown : ¬character.toNat < 0x20 := fun low => hidden (isHidden_of_lt_space low)
      simpa using shown
  all_goals decide

theorem isOneLine_quoted
    (text : String) :
    IsOneLine (quoted text) := by
  have inner := noControl_flatMap noControl_quotedChar text.toList
  rw [quoted, isOneLine_ofList]
  simpa using inner

end Text

open Text

namespace Decimal

theorem noControl_map_digitChar
    {digits : List Nat}
    (small : ∀ digit ∈ digits, digit < 10) :
    NoControl (digits.map digitChar) := by
  have digitNotControl : ∀ digit < 10, 0x20 ≤ (digitChar digit).toNat := by
    decide
  intro character member
  obtain ⟨digit, inDigits, rfl⟩ := List.mem_map.mp member
  exact digitNotControl digit (small digit inDigits)

theorem noControl_natText
    (value : Nat) :
    NoControl (natText value) :=
  noControl_map_digitChar (small_digits value)

theorem noControl_intText
    (value : Int) :
    NoControl (intText value) := by
  rw [intText]
  split <;> simp [noControl_natText]

section Layouts

variable
  {digits : List Nat}
  (small : ∀ digit ∈ digits, digit < 10)

include small

theorem noControl_fractionText
    (keepsFraction : Bool) :
    NoControl (fractionText keepsFraction digits) := by
  rw [fractionText.eq_def]
  split
  · exact noControl_nil
  · decide
  · simpa using noControl_map_digitChar small

theorem noControl_plainText
    (keepsFraction : Bool)
    (exponent : Int) :
    NoControl (plainText keepsFraction digits exponent) := by
  rw [plainText]
  split
  · have padded := small_append (small_replicate_zero (-exponent - 1).toNat) small
    simpa using noControl_fractionText padded keepsFraction
  · have whole :=
      small_append
        (small_of_sublist small (List.take_sublist (exponent.toNat + 1) digits))
        (small_replicate_zero (exponent.toNat + 1 - digits.length))
    have fraction := small_of_sublist small (List.drop_sublist (exponent.toNat + 1) digits)
    exact noControl_append.mpr
      ⟨noControl_map_digitChar whole, noControl_fractionText fraction keepsFraction⟩

theorem noControl_exponentText
    (exponentWidth : Nat)
    (exponent : Int) :
    NoControl (exponentText exponentWidth digits exponent) := by
  have whole := noControl_map_digitChar (small_of_sublist small (List.take_sublist 1 digits))
  have fraction :=
    noControl_fractionText (small_of_sublist small (List.drop_sublist 1 digits)) false
  have sign : 0x20 ≤ (if exponent < 0 then '-' else '+').toNat := by
    split <;> decide
  have power := noControl_natText exponent.natAbs
  have zeros
      (count : Nat) :
      NoControl (List.replicate count '0') := by
    intro character isZero
    rw [List.eq_of_mem_replicate isZero]
    decide
  simp only [exponentText, noControl_append, noControl_cons]
  exact ⟨⟨⟨⟨whole, fraction⟩, by decide, sign, noControl_nil⟩, zeros _⟩, power⟩

end Layouts

theorem Layout.noControl_text
    (layout : Layout)
    (negative : Bool)
    (magnitude : Magnitude) :
    NoControl (layout.text negative magnitude) := by
  have small := small_significantDigits (shortest layout.tie magnitude).significand
  rw [Layout.text]
  refine noControl_append.mpr ⟨?_, ?_⟩
  · cases negative <;> decide
  · split
    · exact noControl_plainText small _ _
    · exact noControl_exponentText small _ _

end Decimal

namespace Json

/-- In compact text every character below the space is escaped. -/
theorem noControl_stringChar
    (character : Char) :
    NoControl (stringChar character) := by
  unfold stringChar
  split
  case h_8 =>
    split <;> rename_i low
    · have high := hexDigit_not_control (character.toNat / 16) (by omega)
      have last := hexDigit_not_control (character.toNat % 16) (by omega)
      simpa using ⟨high, last⟩
    · simpa using low
  all_goals decide

theorem noControl_stringText
    (value : String) :
    NoControl (stringText value) := by
  have inner := noControl_flatMap noControl_stringChar value.toList
  simpa [stringText] using inner

theorem noControl_realText
    (negative : Bool)
    (magnitude : Magnitude) :
    NoControl (realText negative magnitude) :=
  numberLayout.noControl_text negative magnitude

theorem noControl_numberText
    (value : Number) :
    NoControl (numberText value) := by
  cases value with
  | integer value _ => exact Decimal.noControl_intText value
  | real negative magnitude => exact noControl_realText negative magnitude

mutual

theorem noControl_compactChars :
    ∀ value, NoControl (compactChars value)
  | null => by decide
  | boolean true => by decide
  | boolean false => by decide
  | number value => noControl_numberText value
  | string value => noControl_stringText value
  | array items => by simpa [compactChars] using noControl_compactItems items
  | object members => by simpa [compactChars] using noControl_compactMembers members

theorem noControl_compactItems :
    ∀ items, NoControl (compactItems items)
  | [] => noControl_nil
  | [item] => noControl_compactChars item
  | item :: next :: rest => by
      simpa [compactItems] using
        ⟨noControl_compactChars item, noControl_compactItems (next :: rest)⟩

theorem noControl_compactMembers :
    ∀ members, NoControl (compactMembers members)
  | [] => noControl_nil
  | [(name, value)] => by
      simpa [compactMembers] using
        ⟨noControl_stringText name, noControl_compactChars value⟩
  | (name, value) :: next :: rest => by
      simpa [compactMembers] using
        ⟨noControl_stringText name, noControl_compactChars value,
          noControl_compactMembers (next :: rest)⟩

end

theorem isOneLine_compactText
    (value : Json) :
    IsOneLine value.compactText :=
  isOneLine_ofList.mpr (noControl_compactChars value)

theorem Kind.isOneLine_name
    (kind : Kind) :
    IsOneLine kind.name := by
  cases kind <;> decide

theorem Unexpected.isOneLine_description
    (found : Unexpected) :
    IsOneLine found.description := by
  unfold description
  cases found
  case boolean value => cases value <;> decide
  all_goals
    simp only [isOneLine_append, isOneLine_ofList, isOneLine_quoted,
      Decimal.noControl_intText, noControl_realText, and_true]
    decide

theorem Fault.isOneLine_message
    (fault : Fault) :
    IsOneLine fault.message := by
  unfold message
  cases fault <;>
    simp only [isOneLine_append, Unexpected.isOneLine_description, and_true] <;>
    decide

theorem SyntaxError.isOneLine_message
    (error : SyntaxError) :
    IsOneLine error.message := by
  simp only [message, isOneLine_append, isOneLine_ofList, Fault.isOneLine_message,
    Decimal.noControl_natText, and_true, true_and]
  decide

end Json

theorem Builtin.isOneLine_name
    (builtin : Builtin) :
    IsOneLine builtin.name := by
  rcases builtin with _ | _ | _ | _ | operation
  case arithmetic => cases operation <;> decide
  all_goals decide

theorem InvalidCommand.isOneLine_message
    (cause : InvalidCommand) :
    IsOneLine cause.message := by
  cases cause with
  | notAnObject entry =>
      exact isOneLine_append.mpr ⟨by decide, entry.isOneLine_compactText⟩
  | targetNotText kind =>
      exact isOneLine_append.mpr ⟨by decide, kind.isOneLine_name⟩
  | targetMissing => decide

namespace Failure

/-- The reason that the world outside gave for a failure to read or to write. -/
def reason? :
    Failure →
    Option String
  | inputOutput reason => some reason
  | inFunction _ cause => cause.reason?
  | inScript _ cause => cause.reason?
  | _ => none

/-- The wording of one layer has no line break, whatever it shows. -/
theorem isOneLine_layerMessage
    (failure : Failure) :
    IsOneLine failure.layerMessage := by
  unfold layerMessage
  -- What is shown has no line break by itself, and the wording around it is fixed.
  cases failure <;>
    simp only [isOneLine_append, isOneLine_ofList, isOneLine_quoted,
      Decimal.noControl_natText, Json.SyntaxError.isOneLine_message,
      InvalidCommand.isOneLine_message, Json.Kind.isOneLine_name, Builtin.isOneLine_name,
      and_true] <;>
    decide +kernel

theorem isOneLine_layerMessages
    {failure : Failure}
    (reasons : ∀ reason, failure.reason? = some reason → IsOneLine reason) :
    ∀ text ∈ failure.layerMessages, IsOneLine text := by
  have outermost := failure.isOneLine_layerMessage
  induction failure with
  | inFunction _ cause inductionHypothesis | inScript _ cause inductionHypothesis =>
      have inner := inductionHypothesis reasons cause.isOneLine_layerMessage
      simpa [layerMessages, errorChain, ErrorChain.wordings] using ⟨outermost, inner⟩
  | inputOutput reason =>
      simpa [layerMessages, errorChain, ErrorChain.wordings] using ⟨outermost, reasons reason rfl⟩
  | _ => simpa [layerMessages, errorChain, ErrorChain.wordings] using outermost

/-- A message stays on one line if the reason does that came from outside. -/
theorem isOneLine_message
    {failure : Failure}
    (reasons : ∀ reason, failure.reason? = some reason → IsOneLine reason) :
    IsOneLine failure.message := by
  rw [message_eq]
  exact isOneLine_intercalate (by decide) (isOneLine_layerMessages reasons)

/-- Only failures of input and output have a reason. -/
theorem reason?_eq_none
    {failure : Failure}
    (inside : failure.kind ≠ .inputOutput) :
    failure.reason? = none := by
  induction failure with
  | inputOutput reason => exact absurd rfl inside
  | inFunction _ _ inductionHypothesis | inScript _ _ inductionHypothesis =>
      exact inductionHypothesis inside
  | _ => rfl

@[simp] theorem reason?_within
    (layers : List String)
    (cause : Failure) :
    (within layers cause).reason? = cause.reason? := by
  induction layers with
  | nil => rfl
  | cons name rest inductionHypothesis => exact inductionHypothesis

end Failure

namespace Builtin

variable
  {builtin : Builtin}
  {environment : Environment}
  {frame : Nat}
  {failure : Failure}

theorem kind_of_required_error
    {sought : Attribute}
    (failed : builtin.required environment frame sought = .error failure) :
    failure.kind ≠ .inputOutput := by
  rw [required] at failed
  split at failed <;> cases failed
  simp [Failure.kind]

theorem kind_of_operand_error
    {role : Attribute}
    {value : String}
    (failed : builtin.operand role value = .error failure) :
    failure.kind ≠ .inputOutput := by
  rw [operand] at failed
  split at failed <;> cases failed
  simp [Failure.kind]

/-- What a builtin function lacks or cannot read concerns its attributes. -/
theorem kind_of_effect_error
    (failed : builtin.effect environment frame = .error failure) :
    failure.kind ≠ .inputOutput := by
  cases builtin <;>
    simp only [effect, bind, Except.bind, pure, Except.pure] at failed <;>
    repeat' split at failed
  all_goals cases failed
  all_goals first
    | exact kind_of_required_error ‹_›
    | exact kind_of_operand_error ‹_›

end Builtin

theorem Script.reason?_of_ofSource
    {source : ByteArray}
    {failure : Failure}
    (refused : ofSource source = .error failure) :
    failure.reason? = none := by
  rcases ofSource_eq_error_iff.mp refused with ⟨_, _, rfl⟩ | ⟨_, _, fault⟩
  · rfl
  · apply Failure.reason?_eq_none
    simp [fault.kind]

/-- The reasons for which nothing can be read from a tree of directories stay on one line. -/
theorem FileTree.isOneLine_of_store_error
    {tree : FileTree}
    {path : OsText}
    {reason : String}
    (notRead : tree.store path = .error reason) :
    IsOneLine reason := by
  rw [store] at notRead
  cases found : tree.read path with
  | ok bytes =>
      rw [found] at notRead
      cases notRead
  | error fault =>
      rw [found] at notRead
      cases notRead
      cases fault <;> decide

namespace Machine

variable
  {machine stopped after : Machine}
  {frame : Nat}
  {cause failure : Failure}

theorem reason?_of_changed
    {builtin : Builtin}
    {name : String}
    {environment : Option Environment}
    (failed : machine.changed builtin name environment = (.error cause, stopped)) :
    cause.reason? = none := by
  cases environment <;> cases failed
  rfl

/-- The one reason that evaluation gives is that of a sink that is full. -/
theorem reason_of_perform
    {builtin : Builtin}
    {effect : Effect}
    (failed : machine.perform builtin frame effect = (.error cause, stopped)) :
    ∀ reason, cause.reason? = some reason → reason = machine.sink.fullReason := by
  intro reason isReason
  cases effect with
  | assign name value => cases failed
  | update name value => simp [reason?_of_changed failed] at isReason
  | delete name => simp [reason?_of_changed failed] at isReason
  | write line =>
      rw [perform_write, Sink.write] at failed
      split at failed <;> cases failed
      exact (Option.some.inj isReason).symm

theorem reason_of_execute
    {builtin : Builtin}
    (failed : machine.execute builtin frame = (.error cause, stopped)) :
    ∀ reason, cause.reason? = some reason → reason = machine.sink.fullReason := by
  rw [execute] at failed
  split at failed
  · exact reason_of_perform failed
  · rename_i lacking
    cases failed
    simp [Failure.reason?_eq_none (Builtin.kind_of_effect_error lacking)]

/-- Where an activation has arrived, the sink has the reason that it had at the start. -/
theorem fullReason_of_arrived
    {activation : Activation}
    (arrived : activation.Arrived) :
    activation.middle.sink.fullReason = activation.start.sink.fullReason := by
  obtain ⟨fuel, completed⟩ := arrived.completed
  exact (kept_written.commands completed).sameReason

theorem FailsThrough.reason
    {function : Function}
    {stack : List Activation}
    (failed : FailsThrough function frame machine stack cause stopped) :
    ∀ reason, cause.reason? = some reason → reason = machine.sink.fullReason := by
  induction failed with
  | builtin executed => exact reason_of_execute executed
  | undefined _ _ => simp [Failure.reason?]
  | through arrived _ _ inductionHypothesis =>
      intro reason isReason
      exact (inductionHypothesis reason isReason).trans (fullReason_of_arrived arrived)

theorem reason_of_runScript
    {script : Script}
    (fails :
      Finishes (fun fuel => machine.runScript fuel script) (.error failure) after) :
    ∀ reason, failure.reason? = some reason → reason = machine.sink.fullReason := by
  obtain ⟨fuel, ran⟩ := fails
  rcases runScript_eq_ok_iff.mp ran with ⟨_, isMissing, _⟩ | ⟨init, found, called⟩
  · cases isMissing
    simp [Failure.reason?]
  · obtain ⟨stack, cause, _, failed, rfl, _⟩ :=
      endsThrough_of_call (knows_callable found).live called
    rw [Failure.reason?_within]
    exact failed.reason

section Files

variable
  {files : FileStore}
  {before : Machine}
  {outcome : Outcome}

/-- A file that fails gives a reason of the store's, or of the sink's. -/
theorem FileEnds.reason
    {path : OsText}
    (ends : FileEnds files path before (.error cause) after) :
    ∀ reason,
      cause.reason? = some reason →
        files path = .error reason ∨ reason = before.sink.fullReason := by
  intro reason isReason
  cases ends with
  | unreadable nothing =>
      obtain rfl := Option.some.inj isReason
      exact .inl nothing
  | refused _ refused => simp [Script.reason?_of_ofSource refused] at isReason
  | ran _ _ finishes => exact .inr (reason_of_runScript finishes reason isReason)

/-- Running a file only adds to what was written. -/
theorem FileEnds.extends
    {path : OsText}
    (ends : FileEnds files path before outcome after) :
    before.sink.Extends after.sink := by
  cases ends with
  | unreadable _ | refused _ _ => exact .refl _
  | ran _ _ finishes =>
      obtain ⟨_, ran⟩ := finishes
      rcases runScript_eq_ok_iff.mp ran with ⟨_, _, rfl⟩ | ⟨_, _, called⟩
      · exact .refl before.sink
      · have goesOn := kept_written.call called
        exact goesOn

theorem extends_runFiles
    {fuel : Nat}
    {paths : List OsText}
    (ran : machine.runFiles fuel files paths = .ok (outcome, after)) :
    machine.sink.Extends after.sink := by
  let keeps (before after : Machine) : Prop := before.sink.Extends after.sink
  exact runFiles_keeps keeps (fun machine => .refl machine.sink) (.trans · ·)
    (fun ends => ends.extends) ran

/--
The messages of failures stay on one line: those of a source that is refused, of a
script that fails on any machine, and of a batch of files, if the reasons do for which
files cannot be read and writes are refused.
-/
theorem messages_areOneLine :
    (∀ source failure,
      Script.ofSource source = .error failure → IsOneLine failure.message) ∧
    (∀ (machine : Machine) script failure after,
      IsOneLine machine.sink.fullReason →
        Finishes (fun fuel => machine.runScript fuel script) (.error failure) after →
          IsOneLine failure.message) ∧
    ∀ (machine : Machine) (files : FileStore) paths failure after,
      IsOneLine machine.sink.fullReason →
        (∀ path ∈ paths, ∀ reason, files path = .error reason → IsOneLine reason) →
          Finishes (fun fuel => machine.runFiles fuel files paths) (.error failure) after →
            IsOneLine failure.message := by
  refine ⟨?_, ?_, ?_⟩
  · intro source failure refused
    apply Failure.isOneLine_message
    simp [Script.reason?_of_ofSource refused]
  · intro machine script failure after fullOneLine fails
    apply Failure.isOneLine_message
    intro reason isReason
    rwa [reason_of_runScript fails reason isReason]
  · intro machine files paths failure after fullOneLine reasonsOneLine fails
    obtain ⟨earlier, path, later, before, cause, rfl, rfl, behind⟩ :=
      finishes_runFiles_error_iff.mp fails
    obtain ⟨fuel, completed⟩ := behind.completed
    apply Failure.isOneLine_message
    intro reason isReason
    rcases behind.fails.reason reason isReason with notRead | rfl
    · exact reasonsOneLine path (by simp) reason notRead
    · rwa [(extends_runFiles completed).sameReason]

end Files

/-- A script with an escape character in an entry that is no command. -/
def escapedEntry : ByteArray :=
  "\x7b\"in\\nit\": [\x7b\"cmd\": \"print\"\x7d, [\"\\u001b[31m\"]]\x7d".toUTF8

/-- A directory with one file, whose script calls a function with a line break in its name. -/
def brokenName : FileTree :=
  FileTree.emptyDirectory.addFile (.ofString "broken\npath.json")
    "\x7b\"init\": [\x7b\"cmd\": \"no\\nwhere\"\x7d]\x7d".toUTF8

/-- Neither the entry nor the names or the path break the line of a message. -/
theorem brokenName_oneLine :
    (∃ failure,
      Script.ofSource escapedEntry = .error failure ∧
        failure.message =
          "cannot parse function \"in\\nit\": invalid command: [\"\\u001b[31m\"]" ∧
        IsOneLine failure.message) ∧
      ∃ failure after,
        Finishes
            (fun fuel => bare.runFiles fuel brokenName.store [.ofString "broken\npath.json"])
            (.error failure) after ∧
          failure.message =
            "failed to run script \"broken\\npath.json\": " ++
              "failed to execute function \"init\": " ++
              "failed to evaluate command: function \"no\\nwhere\" is not defined" ∧
          IsOneLine failure.message := by
  have refusal :
      (match Script.ofSource escapedEntry with
        | .error failure => some failure.message
        | .ok _ => none) =
        some
          "cannot parse function \"in\\nit\": invalid command: [\"\\u001b[31m\"]" := by
    decide +kernel
  have fails :
      (bare.runFiles 1 brokenName.store [.ofString "broken\npath.json"]).toOption.map
          (fun ended =>
            match ended.1 with
            | .error failure => some failure.message
            | .ok _ => none) =
        some
          (some
            ("failed to run script \"broken\\npath.json\": " ++
              "failed to execute function \"init\": " ++
              "failed to evaluate command: function \"no\\nwhere\" is not defined")) := by
    decide +kernel
  obtain ⟨refusedOneLine, _, batchOneLine⟩ := messages_areOneLine
  constructor
  · split at refusal
    case h_2 => cases refusal
    case h_1 failure refused =>
      exact ⟨failure, refused, Option.some.inj refusal, refusedOneLine _ _ refused⟩
  · obtain ⟨outcome, after, ran, isMessage⟩ := exists_of_observed fails
    split at isMessage
    case h_2 => cases isMessage
    case h_1 failure stopped =>
      obtain rfl : outcome = .error failure := stopped
      have finishes :
          Finishes
            (fun fuel => bare.runFiles fuel brokenName.store [.ofString "broken\npath.json"])
            (.error failure) after :=
        ⟨1, ran⟩
      refine ⟨failure, after, finishes, Option.some.inj isMessage,
        batchOneLine _ _ _ _ _ (by decide) ?_ finishes⟩
      exact fun path _ reason notRead => FileTree.isOneLine_of_store_error notRead

end Machine

end FunctionScript
