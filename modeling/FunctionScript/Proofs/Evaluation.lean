import FunctionScript.Evaluation
import FunctionScript.Proofs.Scopes

namespace FunctionScript.Machine

/-!
# Runs

What a finished run of a list of commands, of one command and of a function
consists of, stated once for each. A relation between the machines before and
after a call holds of every finished call if each builtin function and each
dispatch keeps it. More fuel never changes a finished run.
-/

theorem map_eq_ok_iff
    {change : α → β}
    {result : Except ε α}
    {value : β} :
    result.map change = .ok value ↔
      ∃ found, result = .ok found ∧ change found = value := by
  cases result <;>
    simp [Except.map]

section Steps

variable
  {machine after : Machine}
  {outcome : Outcome}

/-- A finished run of a list stops at a first item that fails, or goes on behind it. -/
theorem inOrder_cons_eq_ok_iff
    {step : α → Machine → Run}
    {first : α}
    {rest : List α} :
    inOrder step (first :: rest) machine = .ok (outcome, after) ↔
      (∃ failure,
        outcome = .error failure ∧
          step first machine = .ok (.error failure, after)) ∨
      (∃ middle,
        step first machine = .ok (.ok (), middle) ∧
          inOrder step rest middle = .ok (outcome, after)) := by
  rw [inOrder]
  rcases step first machine with stop | ⟨failure | done, middle⟩
  · simp
  · simp only [Except.ok.injEq, Prod.mk.injEq, Except.error.injEq, reduceCtorEq,
      false_and, exists_false, or_false]
    constructor
    · rintro ⟨rfl, rfl⟩
      exact ⟨failure, rfl, rfl, rfl⟩
    · rintro ⟨_, rfl, rfl, rfl⟩
      exact ⟨rfl, rfl⟩
  · simp

/-- A finished dispatch finds no function, or calls the one it finds in a fresh frame. -/
theorem dispatch_eq_ok_iff
    {call : Function → Nat → Machine → Run}
    {caller : Nat}
    {command : Command} :
    dispatch call caller command machine = .ok (outcome, after) ↔
      machine.environment.isLive caller ∧
        ((machine.environment.function? .chain caller command.target = none ∧
            outcome = .error (.undefinedFunction command.target) ∧
            after = machine) ∨
          ∃ function returned,
            machine.environment.function? .chain caller command.target =
                some function ∧
              call function machine.environment.depth
                  (machine.enter caller command function) =
                .ok (outcome, returned) ∧
              after = returned.leave machine.environment.depth) := by
  rw [dispatch]
  by_cases live : machine.environment.isLive caller
  · simp only [live, ↓reduceIte, true_and]
    cases machine.environment.function? .chain caller command.target with
    | none =>
        simp [eq_comm]
    | some function =>
        simp only [map_eq_ok_iff, Prod.mk.injEq, reduceCtorEq, false_and, false_or,
          Option.some.injEq]
        constructor
        · rintro ⟨⟨_, returned⟩, called, rfl, rfl⟩
          exact ⟨function, returned, rfl, called, rfl⟩
        · rintro ⟨_, returned, rfl, called, rfl⟩
          exact ⟨(outcome, returned), called, rfl, rfl⟩
  · simp [live]

@[simp] theorem call_builtin
    (fuel : Nat)
    (builtin : Builtin)
    (frame : Nat)
    (machine : Machine) :
    machine.call fuel (.builtin builtin) frame =
      machine.callBuiltin builtin frame := by
  cases fuel <;> rfl

theorem callBuiltin_eq_ok_iff
    {builtin : Builtin}
    {frame : Nat} :
    machine.callBuiltin builtin frame = .ok (outcome, after) ↔
      machine.environment.isLive frame ∧
        machine.execute builtin frame = (outcome, after) := by
  rw [callBuiltin]
  by_cases live : machine.environment.isLive frame <;>
    simp [live]

/-- A composite function finishes as its commands do, under its name. -/
theorem call_composite_eq_ok_iff
    {fuel frame : Nat}
    {body : Composite} :
    machine.call fuel (.composite body) frame = .ok (outcome, after) ↔
      ∃ less inner,
        fuel = less + 1 ∧
          inOrder (dispatch (call less) frame) body.commands machine =
            .ok (inner, after) ∧
          outcome = inner.mapError (.inFunction body.name) := by
  cases fuel with
  | zero =>
      simp [call]
  | succ less =>
      simp only [call, Run.annotate, map_eq_ok_iff, Prod.mk.injEq]
      constructor
      · rintro ⟨⟨inner, _⟩, ran, rfl, rfl⟩
        exact ⟨less, inner, rfl, ran, rfl⟩
      · rintro ⟨_, inner, sameFuel, ran, rfl⟩
        cases sameFuel
        exact ⟨(inner, after), ran, rfl, rfl⟩

end Steps

/--
Induction along calls: with the same fuel as its commands, the functions that a
composite function calls come before it.
-/
@[elab_as_elim]
theorem call_induction
    {motive : Nat → Function → Prop}
    (builtin : ∀ fuel called, motive fuel (.builtin called))
    (withoutFuel : ∀ body, motive 0 (.composite body))
    (composite :
      ∀ fuel body,
        (∀ function, motive fuel function) → motive (fuel + 1) (.composite body)) :
    ∀ fuel function, motive fuel function
  | fuel, .builtin called => builtin fuel called
  | 0, .composite body => withoutFuel body
  | fuel + 1, .composite body =>
      composite fuel body
        (call_induction builtin withoutFuel composite fuel)

section Fuel

variable
  {result : Outcome × Machine}
  {machine : Machine}

theorem inOrder_mono
    {step further : α → Machine → Run}
    (finishes :
      ∀ item machine result,
        step item machine = .ok result → further item machine = .ok result)
    {items : List α}
    (finished : inOrder step items machine = .ok result) :
    inOrder further items machine = .ok result := by
  obtain ⟨outcome, after⟩ := result
  induction items generalizing machine with
  | nil => exact finished
  | cons first rest inductionHypothesis =>
      rw [inOrder_cons_eq_ok_iff] at finished ⊢
      rcases finished with ⟨failure, failed, ran⟩ | ⟨middle, ran, restFinished⟩
      · exact .inl ⟨failure, failed, finishes _ _ _ ran⟩
      · exact .inr ⟨middle, finishes _ _ _ ran, inductionHypothesis restFinished⟩

theorem dispatch_mono
    {call further : Function → Nat → Machine → Run}
    (finishes :
      ∀ function frame machine result,
        call function frame machine = .ok result →
          further function frame machine = .ok result)
    {caller : Nat}
    {command : Command}
    (finished : dispatch call caller command machine = .ok result) :
    dispatch further caller command machine = .ok result := by
  obtain ⟨outcome, after⟩ := result
  rw [dispatch_eq_ok_iff] at finished ⊢
  obtain ⟨live, undefined | ⟨function, returned, found, ran, left⟩⟩ := finished
  · exact ⟨live, .inl undefined⟩
  · exact ⟨live, .inr ⟨function, returned, found, finishes _ _ _ _ ran, left⟩⟩

/-- More fuel does not change a finished call. -/
theorem call_mono
    {fuel more frame : Nat}
    {function : Function}
    (enough : fuel ≤ more)
    (finished : machine.call fuel function frame = .ok result) :
    machine.call more function frame = .ok result := by
  obtain ⟨outcome, after⟩ := result
  induction more generalizing fuel function frame machine outcome after with
  | zero =>
      rwa [Nat.le_zero.mp enough] at finished
  | succ more inductionHypothesis =>
      cases function with
      | builtin builtin =>
          simpa using finished
      | composite body =>
          rw [call_composite_eq_ok_iff] at finished ⊢
          obtain ⟨less, inner, rfl, ran, ended⟩ := finished
          refine ⟨more, inner, rfl, ?_, ended⟩
          refine inOrder_mono (fun command machine result => ?_) ran
          refine dispatch_mono (fun function frame machine result called => ?_)
          exact inductionHypothesis (Nat.le_of_succ_le_succ enough) _ _ called

theorem runCommand_mono
    {fuel more caller : Nat}
    {command : Command}
    (enough : fuel ≤ more)
    (finished : machine.runCommand fuel caller command = .ok result) :
    machine.runCommand more caller command = .ok result :=
  dispatch_mono (fun _ _ _ _ => call_mono enough) finished

theorem commands_mono
    {fuel more caller : Nat}
    {commands : List Command}
    (enough : fuel ≤ more)
    (finished : inOrder (runCommand fuel caller) commands machine = .ok result) :
    inOrder (runCommand more caller) commands machine = .ok result :=
  inOrder_mono (fun _ _ _ => runCommand_mono enough) finished

end Fuel

/-- Some amount of fuel brings the run to this end. -/
def Finishes
    (run : Nat → Run)
    (outcome : Outcome)
    (after : Machine) :
    Prop :=
  ∃ fuel, run fuel = .ok (outcome, after)

/-- A run that more fuel does not change comes to one end. -/
theorem Finishes.unique
    {run : Nat → Run}
    (mono :
      ∀ fuel more result, fuel ≤ more → run fuel = .ok result → run more = .ok result)
    {firstOutcome secondOutcome : Outcome}
    {first second : Machine}
    (firstFinishes : Finishes run firstOutcome first)
    (secondFinishes : Finishes run secondOutcome second) :
    firstOutcome = secondOutcome ∧ first = second := by
  obtain ⟨firstFuel, firstRan⟩ := firstFinishes
  obtain ⟨secondFuel, secondRan⟩ := secondFinishes
  have firstLater := mono _ _ _ (Nat.le_max_left firstFuel secondFuel) firstRan
  have secondLater := mono _ _ _ (Nat.le_max_right firstFuel secondFuel) secondRan
  rw [firstLater] at secondLater
  cases secondLater
  exact ⟨rfl, rfl⟩

/--
A relation between a frame and the machines before and after a call in it, which
builtin functions establish, and which a call hands on to the dispatch it serves.
-/
structure Kept
    (relation : Nat → Machine → Machine → Prop) :
    Prop where
  refl : ∀ frame machine, relation frame machine machine
  trans :
    ∀ frame first second third,
      relation frame first second →
        relation frame second third →
          relation frame first third
  execute :
    ∀ builtin frame machine,
      machine.environment.isLive frame →
        relation frame machine (machine.execute builtin frame).2
  dispatch :
    ∀ caller command function machine returned,
      machine.environment.isLive caller →
        relation machine.environment.depth
            (machine.enter caller command function) returned →
          relation caller machine (returned.leave machine.environment.depth)

namespace Kept

variable
  {relation : Nat → Machine → Machine → Prop}
  {machine after : Machine}
  {outcome : Outcome}

/-- A list of items keeps what each of them keeps. -/
theorem inOrder
    (kept : Kept relation)
    {step : α → Machine → Run}
    {frame : Nat}
    (stepKeeps :
      ∀ item machine outcome after,
        step item machine = .ok (outcome, after) → relation frame machine after)
    {items : List α}
    (finished : Machine.inOrder step items machine = .ok (outcome, after)) :
    relation frame machine after := by
  induction items generalizing machine with
  | nil =>
      cases finished
      exact kept.refl frame _
  | cons first rest inductionHypothesis =>
      rcases inOrder_cons_eq_ok_iff.mp finished with
          ⟨failure, _, ran⟩ | ⟨middle, ran, restFinished⟩
      · exact stepKeeps _ _ _ _ ran
      · exact kept.trans _ _ _ _ (stepKeeps _ _ _ _ ran)
          (inductionHypothesis restFinished)

/-- A dispatch keeps what calls keep. -/
theorem ofDispatch
    (kept : Kept relation)
    {call : Function → Nat → Machine → Run}
    (callKeeps :
      ∀ function frame machine outcome after,
        call function frame machine = .ok (outcome, after) →
          relation frame machine after)
    {caller : Nat}
    {command : Command}
    (finished : Machine.dispatch call caller command machine = .ok (outcome, after)) :
    relation caller machine after := by
  obtain ⟨live, ⟨_, _, rfl⟩ | ⟨function, returned, _, ran, rfl⟩⟩ :=
    dispatch_eq_ok_iff.mp finished
  · exact kept.refl caller _
  · exact kept.dispatch _ _ _ _ _ live (callKeeps _ _ _ _ _ ran)

/-- Every finished call keeps the relation. -/
theorem call
    (kept : Kept relation)
    {fuel frame : Nat}
    {function : Function}
    (finished : machine.call fuel function frame = .ok (outcome, after)) :
    relation frame machine after := by
  induction fuel, function using call_induction
    generalizing frame machine outcome after with
  | builtin fuel builtin =>
      rw [call_builtin, callBuiltin_eq_ok_iff] at finished
      obtain ⟨live, executed⟩ := finished
      simpa [executed] using kept.execute builtin frame machine live
  | withoutFuel body => cases finished
  | composite fuel body inductionHypothesis =>
      obtain ⟨less, inner, sameFuel, ran, _⟩ :=
        call_composite_eq_ok_iff.mp finished
      cases sameFuel
      refine kept.inOrder (fun command machine outcome after dispatched => ?_) ran
      exact kept.ofDispatch (fun _ _ _ _ _ => inductionHypothesis _) dispatched

theorem runCommand
    (kept : Kept relation)
    {fuel caller : Nat}
    {command : Command}
    (finished : machine.runCommand fuel caller command = .ok (outcome, after)) :
    relation caller machine after :=
  kept.ofDispatch (fun _ _ _ _ _ => kept.call) finished

theorem commands
    (kept : Kept relation)
    {fuel caller : Nat}
    {commands : List Command}
    (finished :
      Machine.inOrder (Machine.runCommand fuel caller) commands machine =
        .ok (outcome, after)) :
    relation caller machine after :=
  kept.inOrder (fun _ _ _ _ => kept.runCommand) finished

end Kept

theorem environment_enter
    (machine : Machine)
    (caller : Nat)
    (command : Command)
    (function : Function) :
    (machine.enter caller command function).environment =
      machine.environment.extend caller
        (machine.environment.argumentValues caller command) :=
  rfl

theorem depth_enter
    (machine : Machine)
    (caller : Nat)
    (command : Command)
    (function : Function) :
    (machine.enter caller command function).environment.depth =
      machine.environment.depth + 1 := by
  rw [environment_enter, Environment.depth_extend]

/-- An effect changes the environment along the chain of its frame only. -/
theorem changesAlong_perform
    {machine : Machine}
    {frame : Nat}
    (live : machine.environment.isLive frame)
    (builtin : Builtin)
    (effect : Effect) :
    Environment.ChangesAlong frame machine.environment
      (machine.perform builtin frame effect).2.environment := by
  cases effect with
  | write line => exact .refl frame _
  | assign name value =>
      simp only [perform, Environment.assign,
        Environment.defineVariable_eq_changeVariables]
      exact Environment.changesAlong_changeVariables
        (Environment.assignmentFrame_mem_chain live name) _
  | update name value =>
      simp only [perform, Environment.update?]
      cases found : machine.environment.bindingFrame? frame name with
      | none => exact .refl frame _
      | some target =>
          simp only [Option.map_some, changed,
            Environment.defineVariable_eq_changeVariables]
          exact Environment.changesAlong_changeVariables
            (Environment.mem_chain_of_bindingFrame? found) _
  | delete name =>
      simp only [perform, Environment.delete?]
      cases found : machine.environment.bindingFrame? frame name with
      | none => exact .refl frame _
      | some target =>
          simp only [Option.map_some, changed,
            Environment.eraseVariable_eq_changeVariables]
          exact Environment.changesAlong_changeVariables
            (Environment.mem_chain_of_bindingFrame? found) _

/-- A call changes the environment along the chain of its frame only. -/
theorem kept_changesAlong :
    Kept fun frame before after =>
      Environment.ChangesAlong frame before.environment after.environment where
  refl := fun frame machine => .refl frame machine.environment
  trans := fun _ _ _ _ left right => left.trans right
  execute := by
    intro builtin frame machine live
    simp only [execute]
    cases builtin.effect machine.environment frame with
    | error failure => exact .refl frame _
    | ok effect => exact changesAlong_perform live builtin effect
  dispatch := by
    intro caller command function machine returned live changed
    exact Environment.ChangesAlong.leave _ live changed

/-- A run of which something is observed has finished. -/
theorem exists_of_observed
    {run : Run}
    {observe : Outcome × Machine → β}
    {observed : β}
    (seen : run.toOption.map observe = some observed) :
    ∃ outcome after,
      run = .ok (outcome, after) ∧ observe (outcome, after) = observed := by
  rcases run with stop | ⟨outcome, after⟩
  · cases seen
  · exact ⟨outcome, after, rfl, Option.some.inj seen⟩

theorem eq_ok_of_isOk
    {outcome : Outcome}
    (isOk : outcome.isOk) :
    outcome = .ok () := by
  cases outcome with
  | error failure => cases isOk
  | ok done => rfl

/-- A machine whose root binds the builtin functions and nothing else. -/
def bare : Machine where
  environment := Environment.initial.overlayRoot Function.builtins ∅
  sink := .unlimited
  log := #[]

end FunctionScript.Machine
