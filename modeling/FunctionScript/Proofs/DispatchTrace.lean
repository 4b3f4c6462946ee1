import FunctionScript.Proofs.Evaluation

namespace FunctionScript

/-!
# Traces of dispatches

Every dispatch is logged: the target of the command, the number of frames that are
live once its own has been made, and whether the function is built in. Two runs
from environments of the same shape log the same dispatches up to the point where
one of them fails, whatever variables and sinks hold.
-/

/-- What is logged of a dispatch. -/
structure Dispatch where
  target : String
  /-- The number of live frames, the one of this dispatch included. -/
  live : Nat
  builtin : Bool
  deriving DecidableEq, Repr

/-- The dispatch that an event logs. -/
def Event.dispatch? :
    Event →
    Option Dispatch
  | .dispatching target live builtin => some ⟨target, live, builtin⟩
  | _ => none

namespace Machine

def dispatches
    (machine : Machine) :
    List Dispatch :=
  machine.log.toList.filterMap Event.dispatch?

@[simp] theorem log_execute
    (machine : Machine)
    (builtin : Builtin)
    (frame : Nat) :
    (machine.execute builtin frame).2.log = machine.log := by
  simp only [execute]
  cases builtin.effect machine.environment frame with
  | error failure => rfl
  | ok effect =>
      cases effect with
      | assign name value => rfl
      | write line => rfl
      | update name value =>
          simp only [perform]
          cases machine.environment.update? frame name value <;> rfl
      | delete name =>
          simp only [perform]
          cases machine.environment.delete? frame name <;> rfl

theorem dispatches_callBuiltin
    {machine after : Machine}
    {builtin : Builtin}
    {frame : Nat}
    {outcome : Outcome}
    (ran : machine.callBuiltin builtin frame = .ok (outcome, after)) :
    after.dispatches = machine.dispatches := by
  obtain ⟨_, executed⟩ := callBuiltin_eq_ok_iff.mp ran
  have sameLog : (machine.execute builtin frame).2.log = machine.log :=
    log_execute machine builtin frame
  rw [executed] at sameLog
  exact congrArg (fun log => log.toList.filterMap Event.dispatch?) sameLog

/-- Entering the frame of a command logs its dispatch. -/
theorem dispatches_enter
    (machine : Machine)
    (caller : Nat)
    (command : Command)
    (function : Function) :
    (machine.enter caller command function).dispatches =
      machine.dispatches ++
        [⟨command.target, machine.environment.depth + 1, function.isBuiltin⟩] := by
  simp [dispatches, enter, record, recordAll, List.filterMap_map,
    Function.comp_def, Event.dispatch?]

/-- A run only adds to the dispatches. -/
theorem kept_dispatches :
    Kept fun _ before after =>
      ∃ trace, after.dispatches = before.dispatches ++ trace where
  refl := fun _ _ => ⟨[], by simp⟩
  trans := by
    rintro _ first second third ⟨left, leftLogged⟩ ⟨right, rightLogged⟩
    exact ⟨left ++ right, by rw [rightLogged, leftLogged, List.append_assoc]⟩
  execute := fun _ _ _ _ => ⟨[], by simp [dispatches]⟩
  dispatch := by
    rintro caller command function machine returned _ ⟨trace, logged⟩
    rw [dispatches_enter, List.append_assoc] at logged
    exact ⟨_, logged⟩

/-- Two runs log the same dispatches, except that one of them may have failed earlier. -/
inductive InStep :
    Outcome →
    List Dispatch →
    Outcome →
    List Dispatch →
    Prop where
  | same
      (first second : Outcome)
      (trace : List Dispatch) :
      InStep first trace second trace
  | firstFailed
      (failure : Failure)
      (second : Outcome)
      {trace longer : List Dispatch}
      (cut : trace <+: longer) :
      InStep (.error failure) trace second longer
  | secondFailed
      (first : Outcome)
      (failure : Failure)
      {trace longer : List Dispatch}
      (cut : trace <+: longer) :
      InStep first longer (.error failure) trace

namespace InStep

variable
  {first second : Outcome}
  {firstTrace secondTrace : List Dispatch}

theorem symm
    (inStep : InStep first firstTrace second secondTrace) :
    InStep second secondTrace first firstTrace := by
  cases inStep with
  | same => exact .same _ _ _
  | firstFailed failure _ cut => exact .secondFailed _ _ cut
  | secondFailed _ failure cut => exact .firstFailed _ _ cut

theorem comparable
    (inStep : InStep first firstTrace second secondTrace) :
    firstTrace <+: secondTrace ∨ secondTrace <+: firstTrace := by
  cases inStep with
  | same => exact .inl (List.prefix_refl _)
  | firstFailed failure _ cut => exact .inl cut
  | secondFailed _ failure cut => exact .inr cut

/-- No run logs a dispatch that a run without failure does not log. -/
theorem prefix_of_ok
    (inStep : InStep first firstTrace second secondTrace)
    (succeeded : second = .ok ()) :
    firstTrace <+: secondTrace := by
  cases inStep with
  | same => exact List.prefix_refl _
  | firstFailed failure _ cut => exact cut
  | secondFailed _ failure cut => cases succeeded

/-- Runs without failure log the same dispatches. -/
theorem eq_of_ok
    (inStep : InStep first firstTrace second secondTrace)
    (firstSucceeded : first = .ok ())
    (secondSucceeded : second = .ok ()) :
    firstTrace = secondTrace := by
  cases inStep with
  | same => rfl
  | firstFailed failure _ cut => cases firstSucceeded
  | secondFailed _ failure cut => cases secondSucceeded

/-- A common beginning keeps two runs in step. -/
theorem prepend
    (inStep : InStep first firstTrace second secondTrace)
    (beginning : List Dispatch) :
    InStep first (beginning ++ firstTrace) second (beginning ++ secondTrace) := by
  cases inStep with
  | same => exact .same _ _ _
  | firstFailed failure _ cut =>
      exact .firstFailed _ _ ((List.prefix_append_right_inj beginning).mpr cut)
  | secondFailed _ failure cut =>
      exact .secondFailed _ _ ((List.prefix_append_right_inj beginning).mpr cut)

/-- A layer around the failures keeps two runs in step. -/
theorem mapError
    (inStep : InStep first firstTrace second secondTrace)
    (layer : Failure → Failure) :
    InStep (first.mapError layer) firstTrace (second.mapError layer) secondTrace := by
  cases inStep with
  | same => exact .same _ _ _
  | firstFailed failure _ cut => exact .firstFailed _ _ cut
  | secondFailed _ failure cut => exact .secondFailed _ _ cut

end InStep

/-- Two finished runs added dispatches that are in step. -/
def LoggedInStep
    (first second : Machine)
    (firstOutcome : Outcome)
    (firstAfter : Machine)
    (secondOutcome : Outcome)
    (secondAfter : Machine) :
    Prop :=
  ∃ firstTrace secondTrace,
    firstAfter.dispatches = first.dispatches ++ firstTrace ∧
      secondAfter.dispatches = second.dispatches ++ secondTrace ∧
      InStep firstOutcome firstTrace secondOutcome secondTrace

section TwoRuns

variable
  {first second firstAfter secondAfter : Machine}
  {firstOutcome secondOutcome : Outcome}

/-- Calls that finish with the fuel run in step from environments of the same shape. -/
def CallsInStep
    (fuel : Nat) :
    Prop :=
  ∀ function frame first second firstOutcome firstAfter secondOutcome secondAfter,
    Environment.SameShape (environment first) (environment second) →
      first.call fuel function frame = .ok (firstOutcome, firstAfter) →
        second.call fuel function frame = .ok (secondOutcome, secondAfter) →
          LoggedInStep first second
            firstOutcome firstAfter secondOutcome secondAfter

/-- Commands run in step if the calls they make do. -/
theorem runCommand_inStep
    {fuel caller : Nat}
    {command : Command}
    (callsInStep : CallsInStep fuel)
    (sameShape : Environment.SameShape first.environment second.environment)
    (firstRan :
      first.runCommand fuel caller command = .ok (firstOutcome, firstAfter))
    (secondRan :
      second.runCommand fuel caller command = .ok (secondOutcome, secondAfter)) :
    LoggedInStep first second
      firstOutcome firstAfter secondOutcome secondAfter := by
  have sameFound := sameShape.function? .chain caller command.target
  obtain ⟨_, firstDispatched⟩ := dispatch_eq_ok_iff.mp firstRan
  obtain ⟨_, secondDispatched⟩ := dispatch_eq_ok_iff.mp secondRan
  rw [sameFound] at firstDispatched
  rcases firstDispatched with
      ⟨undefined, rfl, rfl⟩ | ⟨function, firstReturned, found, firstCalled, rfl⟩
  · rcases secondDispatched with
        ⟨_, rfl, rfl⟩ | ⟨function, _, found, _, _⟩
    · exact ⟨[], [], by simp, by simp, .same _ _ _⟩
    · rw [undefined] at found
      cases found
  · rcases secondDispatched with
        ⟨undefined, _, _⟩ | ⟨_, secondReturned, sameFunction, secondCalled, rfl⟩
    · rw [undefined] at found
      cases found
    · obtain rfl : function = _ := by
        simpa only [found, Option.some.injEq] using sameFunction
      have sameDepth := sameShape.depth
      have enteredShape :
          Environment.SameShape
            (first.enter caller command function).environment
            (second.enter caller command function).environment :=
        sameShape.extend caller _ _
      rw [← sameDepth] at secondCalled
      obtain ⟨firstTrace, secondTrace, firstLogged, secondLogged, inStep⟩ :=
        callsInStep _ _ _ _ _ _ _ _ enteredShape firstCalled secondCalled
      rw [dispatches_enter, List.append_assoc] at firstLogged secondLogged
      rw [← sameDepth] at secondLogged
      exact ⟨_, _, firstLogged, secondLogged, inStep.prepend _⟩

theorem commands_inStep
    {fuel caller : Nat}
    {commands : List Command}
    (callsInStep : CallsInStep fuel)
    (sameShape : Environment.SameShape first.environment second.environment)
    (firstRan :
      inOrder (runCommand fuel caller) commands first = .ok (firstOutcome, firstAfter))
    (secondRan :
      inOrder (runCommand fuel caller) commands second =
        .ok (secondOutcome, secondAfter)) :
    LoggedInStep first second
      firstOutcome firstAfter secondOutcome secondAfter := by
  induction commands generalizing first second with
  | nil =>
      cases firstRan
      cases secondRan
      exact ⟨[], [], by simp, by simp, .same _ _ _⟩
  | cons command rest inductionHypothesis =>
      rcases inOrder_cons_eq_ok_iff.mp firstRan with
          ⟨firstFailure, rfl, firstHead⟩ | ⟨firstMiddle, firstHead, firstRest⟩ <;>
        rcases inOrder_cons_eq_ok_iff.mp secondRan with
          ⟨secondFailure, rfl, secondHead⟩ | ⟨secondMiddle, secondHead, secondRest⟩ <;>
        have headInStep := runCommand_inStep callsInStep sameShape firstHead secondHead
      · exact headInStep
      -- A run that failed here is in step with whatever the other one goes on to log.
      · obtain ⟨trace, longer, firstLogged, secondLogged, inStep⟩ := headInStep
        obtain ⟨more, restLogged⟩ := kept_dispatches.commands secondRest
        rw [secondLogged, List.append_assoc] at restLogged
        exact ⟨_, _, firstLogged, restLogged, .firstFailed _ _
          ((inStep.prefix_of_ok rfl).trans (List.prefix_append _ _))⟩
      · obtain ⟨longer, trace, firstLogged, secondLogged, inStep⟩ := headInStep
        obtain ⟨more, restLogged⟩ := kept_dispatches.commands firstRest
        rw [firstLogged, List.append_assoc] at restLogged
        exact ⟨_, _, restLogged, secondLogged, .secondFailed _ _
          ((inStep.symm.prefix_of_ok rfl).trans (List.prefix_append _ _))⟩
      · obtain ⟨trace, _, firstLogged, secondLogged, inStep⟩ := headInStep
        obtain rfl := inStep.eq_of_ok rfl rfl
        have firstShape := (kept_changesAlong.runCommand firstHead).toSameShape
        have secondShape := (kept_changesAlong.runCommand secondHead).toSameShape
        obtain ⟨firstTrace, secondTrace, firstRestLogged, secondRestLogged, restInStep⟩ :=
          inductionHypothesis
            (firstShape.trans (sameShape.trans secondShape.symm)) firstRest secondRest
        rw [firstLogged, List.append_assoc] at firstRestLogged
        rw [secondLogged, List.append_assoc] at secondRestLogged
        exact ⟨_, _, firstRestLogged, secondRestLogged, restInStep.prepend trace⟩

theorem callBuiltin_inStep
    {builtin : Builtin}
    {frame : Nat}
    (firstRan : first.callBuiltin builtin frame = .ok (firstOutcome, firstAfter))
    (secondRan : second.callBuiltin builtin frame = .ok (secondOutcome, secondAfter)) :
    LoggedInStep first second
      firstOutcome firstAfter secondOutcome secondAfter := by
  exact ⟨[], [], by simp [dispatches_callBuiltin firstRan],
    by simp [dispatches_callBuiltin secondRan], .same _ _ _⟩

/-- Calls with the same fuel run in step. -/
theorem call_inStep
    {fuel frame : Nat}
    {function : Function}
    (sameShape : Environment.SameShape first.environment second.environment)
    (firstRan : first.call fuel function frame = .ok (firstOutcome, firstAfter))
    (secondRan : second.call fuel function frame = .ok (secondOutcome, secondAfter)) :
    LoggedInStep first second
      firstOutcome firstAfter secondOutcome secondAfter := by
  induction fuel, function using call_induction
    generalizing frame first second firstOutcome firstAfter secondOutcome secondAfter with
  | builtin fuel builtin =>
      rw [call_builtin] at firstRan secondRan
      exact callBuiltin_inStep firstRan secondRan
  | withoutFuel body => cases firstRan
  | composite fuel body inductionHypothesis =>
      obtain ⟨less, firstInner, sameFuel, firstCommands, rfl⟩ :=
        call_composite_eq_ok_iff.mp firstRan
      cases sameFuel
      obtain ⟨_, secondInner, sameFuel, secondCommands, rfl⟩ :=
        call_composite_eq_ok_iff.mp secondRan
      cases sameFuel
      have callsInStep : CallsInStep fuel :=
        fun function _ _ _ _ _ _ _ => inductionHypothesis function
      obtain ⟨firstTrace, secondTrace, firstLogged, secondLogged, inStep⟩ :=
        commands_inStep callsInStep sameShape firstCommands secondCommands
      exact ⟨_, _, firstLogged, secondLogged, inStep.mapError _⟩

/--
What a function calls, and in which order, depends on the shape of the environment
only: of two finished runs one logs a beginning of what the other logs, a run that
succeeds logs all that the other does, and two that succeed log the same.
-/
theorem call_dispatches_comparable
    {frame : Nat}
    {function : Function}
    (sameShape : Environment.SameShape first.environment second.environment)
    (firstFinishes :
      Finishes (fun fuel => first.call fuel function frame) firstOutcome firstAfter)
    (secondFinishes :
      Finishes (fun fuel => second.call fuel function frame)
        secondOutcome secondAfter) :
    ∃ firstTrace secondTrace,
      firstAfter.dispatches = first.dispatches ++ firstTrace ∧
      secondAfter.dispatches = second.dispatches ++ secondTrace ∧
      (firstTrace <+: secondTrace ∨ secondTrace <+: firstTrace) ∧
      (firstOutcome = .ok () → secondTrace <+: firstTrace) ∧
      (secondOutcome = .ok () → firstTrace <+: secondTrace) ∧
      (firstOutcome = .ok () → secondOutcome = .ok () → firstTrace = secondTrace) := by
  obtain ⟨firstFuel, firstRan⟩ := firstFinishes
  obtain ⟨secondFuel, secondRan⟩ := secondFinishes
  obtain ⟨firstTrace, secondTrace, firstLogged, secondLogged, inStep⟩ :=
    call_inStep sameShape
      (call_mono (Nat.le_max_left firstFuel secondFuel) firstRan)
      (call_mono (Nat.le_max_right firstFuel secondFuel) secondRan)
  exact ⟨firstTrace, secondTrace, firstLogged, secondLogged, inStep.comparable,
    inStep.symm.prefix_of_ok, inStep.prefix_of_ok, inStep.eq_of_ok⟩

end TwoRuns

/-- A body that assigns a variable only if it is bound, and goes on to print. -/
def renewAndPrint : Composite where
  name := "renew"
  commands := [
    ⟨"update", [⟨"id", .literal "x"⟩, ⟨"value", .literal "new"⟩]⟩,
    ⟨"print", [⟨"value", .ref "x"⟩]⟩]

/-- The bare machine with one variable. -/
def bareWithVariable : Machine :=
  { bare with
    environment := bare.environment.defineVariable Environment.root "x" "old" }

/-- Where the variable is not bound, what is dispatched is a beginning of what is otherwise. -/
theorem renewAndPrint_dispatches :
    ∃ after failedOutcome failed,
      Finishes
          (fun fuel =>
            bareWithVariable.call fuel (.composite renewAndPrint) Environment.root)
          (.ok ()) after ∧
        Finishes
          (fun fuel => bare.call fuel (.composite renewAndPrint) Environment.root)
          failedOutcome failed ∧
        failedOutcome ≠ .ok () ∧
        failed.dispatches <+: after.dispatches ∧
        failed.dispatches = [⟨"update", 2, true⟩] ∧
        after.dispatches = [⟨"update", 2, true⟩, ⟨"print", 2, true⟩] := by
  have sameShape :
      Environment.SameShape bareWithVariable.environment bare.environment :=
    Environment.sameShape_changeVariables bare.environment Environment.root
      fun table => table.insert "x" "old"
  have succeeds :
      (bareWithVariable.call 1 (.composite renewAndPrint)
          Environment.root).toOption.map (fun ended => (ended.1.isOk, ended.2.dispatches)) =
        some (true, [⟨"update", 2, true⟩, ⟨"print", 2, true⟩]) := by
    decide +kernel
  have fails :
      (bare.call 1 (.composite renewAndPrint) Environment.root).toOption.map
          (fun ended => (ended.1.isOk, ended.2.dispatches)) =
        some (false, [⟨"update", 2, true⟩]) := by
    decide +kernel
  obtain ⟨outcome, after, ran, observed⟩ := exists_of_observed succeeds
  obtain ⟨isOk, dispatched⟩ := Prod.mk.inj observed
  obtain ⟨failedOutcome, failed, failedRan, failedObserved⟩ := exists_of_observed fails
  obtain ⟨isNotOk, failedDispatched⟩ := Prod.mk.inj failedObserved
  obtain rfl := eq_ok_of_isOk isOk
  obtain ⟨trace, shorter, logged, failedLogged, _, isPrefix, _⟩ :=
    call_dispatches_comparable sameShape ⟨1, ran⟩ ⟨1, failedRan⟩
  refine
    ⟨after, failedOutcome, failed, ⟨1, ran⟩, ⟨1, failedRan⟩, ?_, ?_, failedDispatched,
      dispatched⟩
  · rintro rfl
    cases isNotOk
  · rw [logged, failedLogged]
    exact isPrefix rfl

end Machine

end FunctionScript
