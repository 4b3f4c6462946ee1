import FunctionScript.Proofs.FullSink

namespace FunctionScript

/-!
# Failures of builtin functions

A builtin function that fails changes nothing, except that a print whose line does not
fit fills the sink with a part of it. It names the first attribute that its own frame
lacks; if there is none, the first operand that is no number; and if it was to change a
variable, that no frame of the chain binds it. A command whose function is bound nowhere
on the caller's chain changes nothing either.
-/

/-- A function is found exactly if a frame of the chain binds it. -/
theorem Environment.function?_eq_none_iff
    {environment : Environment}
    {frame : Nat}
    {name : String} :
    environment.function? .chain frame name = none ↔
      ∀ place ∈ environment.chain frame, name ∉ environment.functions place := by
  simp [function?, Reach.frames, List.findSome?_eq_none_iff]

namespace Builtin

variable
  {builtin : Builtin}
  {given : String → Option String}
  {failure : Failure}

theorem inputFault?_eq_none_iff :
    builtin.inputFault? given = none ↔
      builtin.firstAbsent? given = none ∧ builtin.firstUnread? given = none := by
  rw [inputFault?]
  cases builtin.firstAbsent? given <;> simp

/-- There is no fault exactly if every attribute is given and every operand is a number. -/
theorem inputFault?_eq_none_iff_complete :
    builtin.inputFault? given = none ↔
      (∀ sought ∈ builtin.attributes, (given sought.name).isSome) ∧
        ∀ role ∈ builtin.operands, ∀ value,
          given role.name = some value → (Numeral.read? value).isSome := by
  rw [inputFault?_eq_none_iff, firstAbsent?, firstUnread?]
  simp [Option.isSome_iff_ne_none]

/-- A fault of what is given is an absent attribute, or else an unread operand. -/
theorem inputFault?_eq_some_iff :
    builtin.inputFault? given = some failure ↔
      (∃ sought,
        builtin.firstAbsent? given = some sought ∧
          .missingArgument builtin sought = failure) ∨
      builtin.firstAbsent? given = none ∧
        ∃ role value,
          builtin.firstUnread? given = some (role, value) ∧
            .numericConversion builtin role value = failure := by
  rw [inputFault?]
  cases builtin.firstAbsent? given <;> simp

end Builtin

namespace Machine

/-- The failures of a builtin function in a frame, each with the sink that it leaves. -/
inductive FailsWith
    (machine : Machine)
    (builtin : Builtin)
    (frame : Nat) :
    Failure →
    Sink →
    Prop where
  | absent
      {sought : Attribute}
      (first : builtin.firstAbsent? (machine.environment.value? .own frame) = some sought) :
      FailsWith machine builtin frame (.missingArgument builtin sought) machine.sink
  | unread
      {role : Attribute}
      {value : String}
      (complete : builtin.firstAbsent? (machine.environment.value? .own frame) = none)
      (first :
        builtin.firstUnread? (machine.environment.value? .own frame) = some (role, value)) :
      FailsWith machine builtin frame (.numericConversion builtin role value) machine.sink
  | unbound
      {name : String}
      (changes : builtin = .update ∨ builtin = .delete)
      (complete : builtin.firstAbsent? (machine.environment.value? .own frame) = none)
      (id : machine.environment.value? .own frame Attribute.id.name = some name)
      (nowhere :
        ∀ place ∈ machine.environment.chain frame,
          name ∉ machine.environment.variables place) :
      FailsWith machine builtin frame (.undefinedVariable builtin name) machine.sink
  | full
      {value : String}
      {part : ByteArray}
      (prints : builtin = .print)
      (text : machine.environment.value? .own frame Attribute.value.name = some value)
      (cuts : machine.sink.Cuts (Builtin.printedLine value).toUTF8 part) :
      FailsWith machine builtin frame (.inputOutput machine.sink.fullReason)
        (machine.sink.taking part)

variable
  {machine after : Machine}
  {builtin : Builtin}
  {frame : Nat}
  {failure : Failure}

/-- A change of a variable fails, without effect, exactly if there is nothing to change. -/
theorem changed_eq_error_iff
    {name : String}
    {change : Nat → Environment} :
    machine.changed builtin name
        ((machine.environment.bindingFrame? frame name).map change) =
      (.error failure, after) ↔
      (∀ place ∈ machine.environment.chain frame,
          name ∉ machine.environment.variables place) ∧
        failure = .undefinedVariable builtin name ∧
        after = machine := by
  rw [← Environment.bindingFrame?_eq_none_iff]
  cases machine.environment.bindingFrame? frame name <;>
    simp [changed, eq_comm]

/-- A builtin function meets a fault of its inputs, or has the effect that they ask for. -/
theorem execute_cases
    (machine : Machine)
    (builtin : Builtin)
    (frame : Nat) :
    (∃ failure,
        builtin.inputFault? (machine.environment.value? .own frame) = some failure ∧
          machine.execute builtin frame = (.error failure, machine)) ∨
      ∃ effect,
        Builtin.Asks (machine.environment.value? .own frame) builtin effect ∧
          machine.execute builtin frame = machine.perform builtin frame effect := by
  rw [execute]
  cases settled : builtin.effect machine.environment frame with
  | error failure =>
      exact .inl ⟨failure, Builtin.effect_eq_error_iff.mp settled, rfl⟩
  | ok effect =>
      exact .inr ⟨effect, Builtin.effect_eq_ok_iff.mp settled, rfl⟩

theorem execute_of_inputFault?
    (fault : builtin.inputFault? (machine.environment.value? .own frame) = some failure) :
    machine.execute builtin frame = (.error failure, machine) := by
  rw [execute, Builtin.effect_eq_error_iff.mpr fault]

theorem execute_of_asks
    {effect : Effect}
    (asks : Builtin.Asks (machine.environment.value? .own frame) builtin effect) :
    machine.execute builtin frame = machine.perform builtin frame effect := by
  rw [execute, Builtin.effect_eq_ok_iff.mpr asks]

theorem failsWith_of_execute
    (failed : machine.execute builtin frame = (.error failure, after)) :
    ∃ sink,
      FailsWith machine builtin frame failure sink ∧
        after = { machine with sink := sink } := by
  rcases machine.execute_cases builtin frame with
      ⟨cause, fault, executed⟩ | ⟨effect, asks, executed⟩
  · cases failed.symm.trans executed
    rcases Builtin.inputFault?_eq_some_iff.mp fault with
        ⟨sought, first, rfl⟩ | ⟨complete, role, value, first, rfl⟩
    · exact ⟨_, .absent first, rfl⟩
    · exact ⟨_, .unread complete first, rfl⟩
  · rw [executed] at failed
    have complete :=
      (Builtin.inputFault?_eq_none_iff.mp (Builtin.inputFault?_eq_none_of_asks asks)).1
    cases asks with
    | create | arithmetic => cases failed
    | update id text =>
        obtain ⟨nowhere, rfl, rfl⟩ := changed_eq_error_iff.mp failed
        exact ⟨_, .unbound (.inl rfl) complete id nowhere, rfl⟩
    | delete id =>
        obtain ⟨nowhere, rfl, rfl⟩ := changed_eq_error_iff.mp failed
        exact ⟨_, .unbound (.inr rfl) complete id nowhere, rfl⟩
    | @print value text =>
        rcases machine.sink.takes_or_cuts (Builtin.printedLine value).toUTF8 with
            takes | ⟨part, cuts⟩
        · simp only [perform_write, takes.write] at failed
          cases failed
        · simp only [perform_write, cuts.write] at failed
          cases failed
          exact ⟨_, .full rfl text cuts, rfl⟩

theorem FailsWith.execute
    {sink : Sink}
    (fails : FailsWith machine builtin frame failure sink) :
    machine.execute builtin frame = (.error failure, { machine with sink := sink }) := by
  cases fails with
  | absent first =>
      exact execute_of_inputFault?
        (Builtin.inputFault?_eq_some_iff.mpr (.inl ⟨_, first, rfl⟩))
  | unread complete first =>
      exact execute_of_inputFault?
        (Builtin.inputFault?_eq_some_iff.mpr (.inr ⟨complete, _, _, first, rfl⟩))
  | unbound changes complete id nowhere =>
      have noneUnread :
          builtin.firstUnread? (machine.environment.value? .own frame) = none := by
        rcases changes with rfl | rfl <;> rfl
      obtain ⟨effect, asks⟩ :=
        Builtin.exists_asks_of_inputFault?_eq_none
          (Builtin.inputFault?_eq_none_iff.mpr ⟨complete, noneUnread⟩)
      rw [execute_of_asks asks]
      cases asks with
      | update sameId text | delete sameId =>
          cases id.symm.trans sameId
          exact changed_eq_error_iff.mpr ⟨nowhere, rfl, rfl⟩
      | create | print | arithmetic =>
          rcases changes with different | different <;> cases different
  | full prints text cuts =>
      subst prints
      rw [execute_of_asks (.print text)]
      simp only [perform_write, cuts.write]

/-- A builtin function fails in exactly these ways, and leaves nothing but what it wrote. -/
theorem execute_eq_error_iff :
    machine.execute builtin frame = (.error failure, after) ↔
      ∃ sink,
        FailsWith machine builtin frame failure sink ∧
          after = { machine with sink := sink } := by
  constructor
  · exact failsWith_of_execute
  · rintro ⟨sink, fails, rfl⟩
    exact fails.execute

/-- A command whose function is bound nowhere on the caller's chain fails without effect. -/
theorem runCommand_of_undefined
    {caller : Nat}
    {command : Command}
    (live : machine.environment.isLive caller)
    (nowhere :
      ∀ place ∈ machine.environment.chain caller,
        command.target ∉ machine.environment.functions place)
    (fuel : Nat) :
    machine.runCommand fuel caller command =
      .ok (.error (.undefinedFunction command.target), machine) :=
  dispatch_eq_ok_iff.mpr
    ⟨live, .inl ⟨Environment.function?_eq_none_iff.mpr nowhere, rfl, rfl⟩⟩

/--
A builtin function fails with the first fault that it meets and changes nothing: every frame
is as it was, and only a print whose line does not fit has written a part of it. A
command whose function is bound nowhere on the caller's chain changes nothing at all.
-/
theorem builtinFailures_atomic :
    (∀ (machine : Machine) builtin frame failure after,
      machine.execute builtin frame = (.error failure, after) ↔
        ∃ sink,
          FailsWith machine builtin frame failure sink ∧
            after = { machine with sink := sink }) ∧
    ∀ (machine : Machine) caller command,
      machine.environment.isLive caller →
        (∀ place ∈ machine.environment.chain caller,
            command.target ∉ machine.environment.functions place) →
          ∀ fuel,
            machine.runCommand fuel caller command =
              .ok (.error (.undefinedFunction command.target), machine) :=
  ⟨fun _ _ _ _ _ => execute_eq_error_iff, fun _ _ _ => runCommand_of_undefined⟩

/-- A machine with room for three bytes, whose frames each lack an attribute that the other has. -/
def lackingAttributes : Machine where
  environment := (bare.environment.defineVariable Environment.root "value" "1").extend
    Environment.root [("id", "w")]
  sink := .limited 3
  log := #[]

/--
The `value` of the root is no attribute of the frame before it, a variable that is bound
nowhere is not deleted, and of a line of seven bytes the first three are written.
-/
theorem lackingAttributes_atomic :
    lackingAttributes.execute .create 1 =
        (.error (.missingArgument .create .value), lackingAttributes) ∧
      lackingAttributes.execute .delete 1 =
        (.error (.undefinedVariable .delete "w"), lackingAttributes) ∧
      lackingAttributes.execute .print Environment.root =
        (.error (.inputOutput "sink full"),
          { lackingAttributes with sink := { capacity := some 3, written := "1.0".toUTF8 } }) ∧
      lackingAttributes.environment.isLive 1 ∧
      (∀ place ∈ lackingAttributes.environment.chain 1,
        "absent" ∉ lackingAttributes.environment.functions place) ∧
      lackingAttributes.runCommand 0 1 ⟨"absent", []⟩ =
        .ok (.error (.undefinedFunction "absent"), lackingAttributes) := by
  obtain ⟨builtinFails, commandFails⟩ := builtinFailures_atomic
  have nowhere :
      ∀ place ∈ lackingAttributes.environment.chain 1,
        "absent" ∉ lackingAttributes.environment.functions place := by
    decide +kernel
  refine ⟨?_, ?_, ?_, rfl, nowhere, commandFails lackingAttributes 1 _ rfl nowhere 0⟩
  · exact (builtinFails _ _ _ _ _).mpr ⟨_, .absent (by decide +kernel), rfl⟩
  · exact (builtinFails _ _ _ _ _).mpr
      ⟨_, .unbound (.inr rfl) (by decide +kernel) (by decide +kernel) (by decide +kernel), rfl⟩
  · have text :
        lackingAttributes.environment.value? .own Environment.root Attribute.value.name =
          some "1" := by
      decide +kernel
    have line : Builtin.printedLine "1" = "1.0000\n" := by
      decide +kernel
    have cuts :
        lackingAttributes.sink.Cuts (Builtin.printedLine "1").toUTF8 "1.0".toUTF8 := by
      rw [line]
      exact ⟨3, "000\n".toUTF8, rfl, rfl, rfl, by decide⟩
    exact (builtinFails _ _ _ _ _).mpr ⟨_, .full rfl text cuts, rfl⟩

end Machine

end FunctionScript
