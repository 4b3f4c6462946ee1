import FunctionScript.Proofs.ArgumentBinding
import FunctionScript.Proofs.BuiltinFailures

namespace FunctionScript

/-!
# The net effect of a command

The frame of a command's function is gone when the command has ended. A builtin function
might as well have had its effect in the frame of the caller, with one exception: if the
variable to change has the name of an argument, it is found in the function's own frame,
and the change is gone with it.
-/

/-- The variable that an effect changes. -/
def Effect.target? :
    Effect →
    Option String
  | .assign name _ | .update name _ | .delete name => some name
  | .write _ => none

namespace View

variable
  {view : View}
  {nearest : Table String}
  {effect : Effect}

/-- A change of a variable that the nearest scope binds is gone with the scope. -/
theorem leave_perform_of_mem
    {name : String}
    (target : effect.target? = some name)
    (bound : name ∈ nearest)
    (builtin : Builtin) :
    Prod.map id leave (perform ⟨nearest :: view.scopes, view.sink⟩ builtin effect) =
      (.ok (), view) := by
  cases effect with
  | write line => cases target
  | assign _ value | update _ value | delete _ =>
      cases target
      simp [perform, changed, Scopes.assign_cons, Scopes.update?, Scopes.delete?,
        Scopes.changeNearest?, Std.ExtTreeMap.contains_iff_mem.mpr bound, leave]

/-- An effect on anything else is the same without the nearest scope. -/
theorem leave_perform_of_notMem
    (free : ∀ name, effect.target? = some name → name ∉ nearest)
    (outer : view.scopes ≠ [])
    (builtin : Builtin) :
    Prod.map id leave (perform ⟨nearest :: view.scopes, view.sink⟩ builtin effect) =
      view.perform builtin effect := by
  cases effect with
  | write line => rfl
  | assign name value =>
      simp [perform, Scopes.assign_cons, free name rfl, outer, leave]
  | update name value | delete name =>
      simp only [perform, Scopes.update?, Scopes.delete?, Scopes.changeNearest?,
        Std.ExtTreeMap.contains_iff_mem, free name rfl, ↓reduceIte]
      cases view.scopes.changeNearest? name _ <;> rfl

/-- A builtin function runs behind a scope with the arguments, which is then taken away. -/
theorem dispatch_builtin
    {known : String → Option Function}
    {command : Command}
    {builtin : Builtin}
    (found : known command.target = some (.builtin builtin))
    (view : View)
    (fuel : Nat) :
    dispatch known (call known fuel) command view =
      .ok (Prod.map id leave ((view.enter command).execute builtin)) := by
  simp only [dispatch, found, call_builtin]
  rfl

end View

namespace Machine

section Commands

variable
  {machine : Machine}
  {caller : Nat}
  {command : Command}
  {builtin : Builtin}

/-- In the scope with the arguments of a command stands what they hand over. -/
theorem getElem?_enter
    (machine : Machine)
    (caller : Nat)
    (command : Command) :
    (fun name => (((machine.view caller).enter command).scopes.headD ∅)[name]?) =
      machine.environment.handed? caller command.arguments := by
  funext name
  rw [← Environment.getElem?_argumentValues, Environment.argumentValues_eq]
  rfl

theorem mem_enter_iff
    {name : String} :
    name ∈ Table.ofEntries ((machine.view caller).scopes.argumentValues command) ↔
      (machine.environment.handed? caller command.arguments name).isSome := by
  rw [← getElem?_enter, Std.ExtTreeMap.mem_iff_isSome_getElem?]
  rfl

/-- The arguments of a command have a fault, or ask for an effect. -/
theorem inputs_cases
    (machine : Machine)
    (caller : Nat)
    (command : Command)
    (builtin : Builtin) :
    (∃ failure,
        builtin.inputFault? (machine.environment.handed? caller command.arguments) =
          some failure) ∨
      ∃ effect,
        Builtin.Asks (machine.environment.handed? caller command.arguments)
          builtin effect := by
  rw [← getElem?_enter]
  cases settled :
      builtin.effectOf (((machine.view caller).enter command).scopes.headD ∅) with
  | error failure => exact .inl ⟨failure, Builtin.effectOf_eq_error_iff.mp settled⟩
  | ok effect => exact .inr ⟨effect, Builtin.effectOf_eq_ok_iff.mp settled⟩

variable
  (live : machine.environment.isLive caller)
  (found :
    machine.environment.function? .chain caller command.target = some (.builtin builtin))
  (fuel : Nat)

include live found

/-- A builtin command shows what its caller sees of it, if it changes no other chain. -/
theorem observed_runCommand
    {outcome : Outcome}
    {after : Machine}
    (changed :
      Environment.ChangesAlong caller machine.environment after.environment)
    (seen :
      Prod.map id View.leave (((machine.view caller).enter command).execute builtin) =
        (outcome, after.view caller)) :
    Run.observed (machine.runCommand fuel caller command) =
      .ok (outcome, after.environment, after.sink) := by
  have sameSeen :
      Run.seenFrom caller (machine.runCommand fuel caller command) =
        Run.seenFrom caller (.ok (outcome, after)) := by
    have isKnown : machine.known caller command.target = some (.builtin builtin) := found
    rw [seenFrom_runCommand live, View.dispatch_builtin isKnown, seen]
    rfl
  refine Run.observed_eq_of_seenFrom caller sameSeen
    (fun _ _ => kept_changesAlong.runCommand) ?_
  intro _ _ same
  cases same
  exact changed

/-- A command whose arguments have a fault fails with it, and shows nothing else. -/
theorem observed_of_inputFault?
    {failure : Failure}
    (fault :
      builtin.inputFault? (machine.environment.handed? caller command.arguments) =
        some failure) :
    Run.observed (machine.runCommand fuel caller command) =
      .ok (.error failure, machine.environment, machine.sink) := by
  rw [← getElem?_enter, ← Builtin.effectOf_eq_error_iff] at fault
  apply observed_runCommand live found fuel (.refl caller _)
  rw [View.execute, fault]
  rfl

variable
  {effect : Effect}
  (asks :
    Builtin.Asks (machine.environment.handed? caller command.arguments) builtin effect)

include asks

/-- A command that is to change the variable of one of its own arguments shows no effect. -/
theorem observed_of_captured
    {name : String}
    (target : effect.target? = some name)
    (captured : (machine.environment.handed? caller command.arguments name).isSome) :
    Run.observed (machine.runCommand fuel caller command) =
      .ok (.ok (), machine.environment, machine.sink) := by
  rw [← getElem?_enter, ← Builtin.effectOf_eq_ok_iff] at asks
  apply observed_runCommand live found fuel (.refl caller _)
  rw [View.execute, asks]
  exact View.leave_perform_of_mem target (mem_enter_iff.mpr captured) builtin

/-- Any other command shows the effect that it would have in the frame of the caller. -/
theorem observed_of_free
    (free :
      ∀ name,
        effect.target? = some name →
          machine.environment.handed? caller command.arguments name = none) :
    Run.observed (machine.runCommand fuel caller command) =
      .ok ((machine.perform builtin caller effect).1,
        (machine.perform builtin caller effect).2.environment,
        (machine.perform builtin caller effect).2.sink) := by
  have notBound
      (name : String)
      (target : effect.target? = some name) :
      name ∉ Table.ofEntries ((machine.view caller).scopes.argumentValues command) := by
    simp [mem_enter_iff, free name target]
  have outer : (machine.view caller).scopes ≠ [] := by
    rw [view, Environment.scopes_of_isLive live]
    exact List.cons_ne_nil _ _
  rw [← getElem?_enter, ← Builtin.effectOf_eq_ok_iff] at asks
  apply observed_runCommand live found fuel (changesAlong_perform live builtin effect)
  rw [View.execute, asks, view_perform live]
  exact View.leave_perform_of_notMem notBound outer builtin

end Commands

section Success

variable
  (machine : Machine)
  (caller : Nat)
  (given : String → Option String)

/-- A variable is bound in the function's own frame, or else along the chain of the caller. -/
def FindsVariable
    (name : String) :
    Prop :=
  (given name).isSome ∨
    ∃ place ∈ machine.environment.chain caller,
      name ∈ machine.environment.variables place

/-- What a builtin command needs to succeed, when values are handed over under names. -/
structure Accepts
    (builtin : Builtin) :
    Prop where
  attributes : ∀ sought ∈ builtin.attributes, (given sought.name).isSome
  operands :
    ∀ role ∈ builtin.operands, ∀ value,
      given role.name = some value → (Numeral.read? value).isSome
  bound :
    builtin = .update ∨ builtin = .delete →
      ∀ name,
        given Attribute.id.name = some name →
          FindsVariable machine caller given name
  room :
    builtin = .print →
      ∀ value,
        given Attribute.value.name = some value →
          machine.sink.Takes (Builtin.printedLine value).toUTF8

/-- The environment and the sink that a builtin command leaves when it succeeds. -/
inductive NetEffect :
    Builtin →
    Environment →
    Sink →
    Prop where
  /-- The variable to change has the name of an argument. -/
  | captured
      {builtin : Builtin}
      {name : String}
      (changes : builtin ≠ .print)
      (id : given Attribute.id.name = some name)
      (isArgument : (given name).isSome) :
      NetEffect builtin machine.environment machine.sink
  | assigned
      {builtin : Builtin}
      {name value : String}
      (asks : Builtin.Asks given builtin (.assign name value))
      (free : given name = none) :
      NetEffect builtin (machine.environment.assign caller name value) machine.sink
  | updated
      {builtin : Builtin}
      {name value : String}
      {after : Environment}
      (asks : Builtin.Asks given builtin (.update name value))
      (free : given name = none)
      (changed : machine.environment.update? caller name value = some after) :
      NetEffect builtin after machine.sink
  | deleted
      {builtin : Builtin}
      {name : String}
      {after : Environment}
      (asks : Builtin.Asks given builtin (.delete name))
      (free : given name = none)
      (changed : machine.environment.delete? caller name = some after) :
      NetEffect builtin after machine.sink
  | printed
      {builtin : Builtin}
      {line : String}
      (asks : Builtin.Asks given builtin (.write line)) :
      NetEffect builtin machine.environment (machine.sink.taking line.toUTF8)

end Success

end Machine

/-- An effect that a builtin command succeeds with, when values are handed over under names. -/
def Effect.Succeeds
    (machine : Machine)
    (caller : Nat)
    (given : String → Option String) :
    Effect →
    Prop
  | .assign _ _ => True
  | .update name _ | .delete name =>
      machine.FindsVariable caller given name
  | .write line => machine.sink.Takes line.toUTF8

namespace Machine

section

variable
  {machine : Machine}
  {caller : Nat}
  {given : String → Option String}
  {builtin : Builtin}
  {effect : Effect}

/-- When it is settled which effect is asked for, only the effect itself can still fail. -/
theorem accepts_iff_of_asks
    (asks : Builtin.Asks given builtin effect) :
    Accepts machine caller given builtin ↔ effect.Succeeds machine caller given := by
  obtain ⟨attributes, operands⟩ :=
    Builtin.inputFault?_eq_none_iff_complete.mp (Builtin.inputFault?_eq_none_of_asks asks)
  constructor
  · intro accepts
    cases asks with
    | create | arithmetic => trivial
    | update id => exact accepts.bound (.inl rfl) _ id
    | delete id => exact accepts.bound (.inr rfl) _ id
    | print text => exact accepts.room rfl _ text
  · intro succeeds
    refine ⟨attributes, operands, ?bound, ?room⟩
    case bound =>
      intro changes name sameId
      cases asks with
      | update id | delete id =>
          cases id.symm.trans sameId
          exact succeeds
      | create | print | arithmetic =>
          rcases changes with different | different <;> cases different
    case room =>
      intro prints value sameText
      cases asks with
      | print text =>
          cases text.symm.trans sameText
          exact succeeds
      | create | update | delete | arithmetic => cases prints

/-- Where no argument has the name of the variable, the effect fails or not as it does directly. -/
theorem perform_eq_ok_iff
    (free : ∀ name, effect.target? = some name → given name = none) :
    (machine.perform builtin caller effect).1 = .ok () ↔
      effect.Succeeds machine caller given := by
  have bound
      (name : String) :
      (machine.environment.bindingFrame? caller name).isSome ↔
        ∃ place ∈ machine.environment.chain caller,
          name ∈ machine.environment.variables place := by
    simp [Environment.bindingFrame?]
  cases effect with
  | assign name value => simp [perform, Effect.Succeeds]
  | update name value | delete name =>
      rw [Effect.Succeeds, FindsVariable, free name rfl, ← bound]
      simp only [perform, Environment.update?, Environment.delete?]
      cases machine.environment.bindingFrame? caller name <;> simp [changed]
  | write line =>
      rw [perform_write]
      exact Sink.write_eq_ok_iff

/-- An effect on a variable that no argument has the name of is the net effect. -/
theorem netEffect_of_perform
    (asks : Builtin.Asks given builtin effect)
    (free : ∀ name, effect.target? = some name → given name = none)
    (succeeds : (machine.perform builtin caller effect).1 = .ok ()) :
    NetEffect machine caller given builtin
      (machine.perform builtin caller effect).2.environment
      (machine.perform builtin caller effect).2.sink := by
  cases effect with
  | assign name value => exact .assigned asks (free name rfl)
  | update name value =>
      simp only [perform] at succeeds ⊢
      cases updated : machine.environment.update? caller name value with
      | none => simp [updated, changed] at succeeds
      | some after => exact .updated asks (free name rfl) updated
  | delete name =>
      simp only [perform] at succeeds ⊢
      cases deleted : machine.environment.delete? caller name with
      | none => simp [deleted, changed] at succeeds
      | some after => exact .deleted asks (free name rfl) deleted
  | write line =>
      rw [perform_write] at succeeds ⊢
      have takes : machine.sink.Takes line.toUTF8 := Sink.write_eq_ok_iff.mp succeeds
      simp only [takes.write]
      exact .printed asks

/-- A change of a variable that an argument has the name of has no net effect. -/
theorem netEffect_of_captured
    {name : String}
    (asks : Builtin.Asks given builtin effect)
    (target : effect.target? = some name)
    (captured : (given name).isSome) :
    NetEffect machine caller given builtin machine.environment machine.sink := by
  cases asks with
  | create id | update id | delete id | arithmetic id =>
      cases target
      exact .captured nofun id captured
  | print => cases target

theorem succeeds_of_captured
    {name : String}
    (target : effect.target? = some name)
    (captured : (given name).isSome) :
    effect.Succeeds machine caller given := by
  cases effect with
  | assign => trivial
  | update | delete =>
      cases target
      exact .inl captured
  | write => cases target

end

/--
The net effect of a builtin command, without the frame in which its function runs. It
succeeds exactly if its arguments hand over what the function needs; then it has the
effect that it would have in the frame of the caller, except that nothing is left of a
change of a variable that an argument has the name of.
-/
theorem builtinCommand_netEffect
    (machine : Machine)
    (caller : Nat)
    (command : Command)
    (builtin : Builtin)
    (live : machine.environment.isLive caller)
    (found :
      machine.environment.function? .chain caller command.target =
        some (.builtin builtin)) :
    ∃ outcome environment sink,
      (∀ fuel,
        Run.observed (machine.runCommand fuel caller command) =
          .ok (outcome, environment, sink)) ∧
      (outcome = .ok () ↔
        Accepts machine caller
          (machine.environment.handed? caller command.arguments) builtin) ∧
      (outcome = .ok () →
        NetEffect machine caller
          (machine.environment.handed? caller command.arguments)
          builtin environment sink) := by
  rcases inputs_cases machine caller command builtin with ⟨failure, fault⟩ | ⟨effect, asks⟩
  · refine ⟨.error failure, _, _,
      fun fuel => observed_of_inputFault? live found fuel fault, ?_, nofun⟩
    constructor
    · exact nofun
    · intro accepts
      have noFault :=
        Builtin.inputFault?_eq_none_iff_complete.mpr
          ⟨accepts.attributes, accepts.operands⟩
      cases fault.symm.trans noFault
  · rw [accepts_iff_of_asks asks]
    by_cases captured :
        ∃ name,
          effect.target? = some name ∧
            (machine.environment.handed? caller command.arguments name).isSome
    · obtain ⟨name, target, isArgument⟩ := captured
      exact ⟨.ok (), _, _,
        fun fuel => observed_of_captured live found fuel asks target isArgument,
        iff_of_true rfl (succeeds_of_captured target isArgument),
        fun _ => netEffect_of_captured asks target isArgument⟩
    · have free
          (name : String)
          (target : effect.target? = some name) :
          machine.environment.handed? caller command.arguments name = none := by
        simpa using fun isArgument => captured ⟨name, target, isArgument⟩
      exact ⟨_, _, _, fun fuel => observed_of_free live found fuel asks free,
        perform_eq_ok_iff free, netEffect_of_perform asks free⟩

/-- Arguments that name their own `value` as the variable to change. -/
def selfNaming : List Argument :=
  [⟨"id", .literal "value"⟩, ⟨"value", .literal "7"⟩]

/-- An update of one of its own arguments succeeds, and nothing is left of it. -/
theorem selfNaming_netEffect :
    bareWithId.environment.isLive 1 ∧
      bareWithId.environment.function? .chain 1 "update" = some (.builtin .update) ∧
      Accepts bareWithId 1 (bareWithId.environment.handed? 1 selfNaming) .update ∧
      Run.observed (bareWithId.runCommand 0 1 ⟨"update", selfNaming⟩) =
        .ok (.ok (), bareWithId.environment, bareWithId.sink) := by
  have found :
      bareWithId.environment.function? .chain 1 "update" = some (.builtin .update) := by
    decide +kernel
  obtain ⟨outcome, environment, sink, ran, succeeds, net⟩ :=
    builtinCommand_netEffect bareWithId 1 ⟨"update", selfNaming⟩ .update rfl found
  have named :
      bareWithId.environment.handed? 1 selfNaming Attribute.id.name = some "value" := by
    decide +kernel
  have isArgument :
      bareWithId.environment.handed? 1 selfNaming "value" = some "7" := by
    decide +kernel
  have accepts :
      Accepts bareWithId 1 (bareWithId.environment.handed? 1 selfNaming) .update :=
    (accepts_iff_of_asks (.update named isArgument)).mpr (.inl (by rw [isArgument]; rfl))
  have ended := succeeds.mpr accepts
  subst ended
  refine ⟨rfl, found, accepts, ?_⟩
  cases net rfl with
  | captured => exact ran 0
  | assigned asks | deleted asks | printed asks => cases asks
  | updated asks free =>
      cases asks with
      | update id =>
          cases named.symm.trans id
          cases free.symm.trans isArgument

end Machine

end FunctionScript
