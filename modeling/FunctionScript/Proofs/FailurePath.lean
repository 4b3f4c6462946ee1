import FunctionScript.Proofs.BuiltinFailures
import FunctionScript.Proofs.CallStack
import FunctionScript.Proofs.ScriptGrammar
import FunctionScript.Proofs.Balance

namespace FunctionScript

/-!
# Paths of failures

A failure reports the path on which it arose: one layer for each function of the
call stack, around a cause that is no layer itself. The run stops exactly there. What
the commands before it did stays, up to a part of a line that could not be written,
and of the commands behind it none is dispatched.
-/

/-- The commands that were dispatched; the current one was if its function was found. -/
def Activation.dispatched
    (activation : Activation) :
    List Command :=
  match activation.callee? with
  | some _ => activation.completed ++ [activation.current]
  | none => activation.completed

namespace Environment

/-- Every composite function is bound under its own name only. -/
def NamesAgree
    (environment : Environment) :
    Prop :=
  ∀ (place : Nat) (name : String) (body : Composite),
    (environment.functions place)[name]? = some (.composite body) → body.name = name

namespace NamesAgree

variable {environment : Environment}

theorem of_sameShape
    {other : Environment}
    (namesAgree : environment.NamesAgree)
    (same : SameShape other environment) :
    other.NamesAgree := by
  intro place name body bound
  rw [same.functions] at bound
  exact namesAgree place name body bound

theorem extend
    (namesAgree : environment.NamesAgree)
    (caller : Nat)
    (values : List (String × String)) :
    (environment.extend caller values).NamesAgree := by
  intro place name body bound
  rw [functions_extend] at bound
  exact namesAgree place name body bound

/-- A function that is found has the name under which it was looked for. -/
theorem name_of_function?
    (namesAgree : environment.NamesAgree)
    {reach : Reach}
    {frame : Nat}
    {name : String}
    {body : Composite}
    (found : environment.function? reach frame name = some (.composite body)) :
    body.name = name := by
  obtain ⟨place, _, bound⟩ := List.exists_of_findSome?_eq_some found
  exact namesAgree place name body bound

end NamesAgree

end Environment

namespace Machine

variable
  {machine after : Machine}
  {function : Function}
  {frame : Nat}

/--
What a builtin function that fails leaves behind: the environment and the log as they
were, and of the output no more than a part of the line that it failed to write.
-/
structure FailsBare
    (before : Machine)
    (cause : Failure)
    (stopped : Machine) :
    Prop where
  isCause : cause.IsCause
  environment : stopped.environment = before.environment
  log : stopped.log = before.log
  sink : cause.kind ≠ .inputOutput → stopped.sink = before.sink
  written : ∃ part, stopped.sink.written = before.sink.written ++ part

namespace FailsBare

variable
  {cause : Failure}
  {stopped : Machine}

theorem unchanged
    (isCause : cause.IsCause)
    (machine : Machine) :
    FailsBare machine cause machine :=
  ⟨isCause, rfl, rfl, fun _ => rfl, .empty, ByteArray.append_empty.symm⟩

theorem execute
    {builtin : Builtin}
    (failed : machine.execute builtin frame = (.error cause, stopped)) :
    FailsBare machine cause stopped := by
  obtain ⟨sink, fails, rfl⟩ := execute_eq_error_iff.mp failed
  cases fails with
  | absent | unread | unbound =>
      apply unchanged
      trivial
  | full =>
      exact
        { isCause := trivial
          environment := rfl
          log := rfl
          sink := fun other => absurd rfl other
          written := ⟨_, rfl⟩ }

end FailsBare

/-- The targets of the dispatches that were logged while that many frames were live. -/
def targetsAt
    (live : Nat)
    (machine : Machine) :
    List String :=
  (machine.dispatches.filter fun dispatch => dispatch.live = live).map Dispatch.target

theorem targetsAt_of_log
    {other : Machine}
    (same : other.log = machine.log)
    (live : Nat) :
    other.targetsAt live = machine.targetsAt live := by
  simp only [targetsAt, dispatches, same]

/-- A dispatch is logged with the number of frames that are live with its own. -/
theorem targetsAt_enter
    (machine : Machine)
    (caller : Nat)
    (command : Command)
    (callee : Function)
    (live : Nat) :
    (machine.enter caller command callee).targetsAt live =
      machine.targetsAt live ++
        if live = machine.environment.depth + 1 then [command.target] else [] := by
  simp only [targetsAt, dispatches_enter, List.filter_append, List.map_append]
  by_cases same : live = machine.environment.depth + 1
  · simp [same]
  · simp [same, Ne.symm same]

/-- A run logs no dispatch with as few live frames as there were when it began. -/
theorem kept_targetsAt :
    Kept fun _ before after =>
      after.environment.depth = before.environment.depth ∧
        ∀ live ≤ before.environment.depth,
          after.targetsAt live = before.targetsAt live where
  refl := fun _ _ => ⟨rfl, fun _ _ => rfl⟩
  trans := by
    intro _ first second third left right
    obtain ⟨leftDepth, leftSame⟩ := left
    obtain ⟨rightDepth, rightSame⟩ := right
    refine ⟨rightDepth.trans leftDepth, ?_⟩
    intro live within
    rw [rightSame live (leftDepth ▸ within), leftSame live within]
  execute := fun builtin _ _ isLive =>
    ⟨depth_execute isLive builtin,
      fun live _ => targetsAt_of_log (log_execute _ builtin _) live⟩
  dispatch := by
    intro caller command callee machine returned isLive kept
    obtain ⟨sameDepth, same⟩ := kept
    rw [depth_enter] at sameDepth same
    refine ⟨Environment.depth_pop (Nat.ne_of_gt (depth_pos isLive)) (by omega), ?_⟩
    intro live within
    have entered := same live (Nat.le_succ_of_le within)
    rw [targetsAt_enter, if_neg (by omega), List.append_nil] at entered
    exact entered

/-- A command that finds its function logs its own dispatch with one frame more. -/
theorem targetsAt_runCommand
    {fuel : Nat}
    {command : Command}
    (ran : machine.runCommand fuel frame command = .ok (.ok (), after)) :
    after.targetsAt (machine.environment.depth + 1) =
      machine.targetsAt (machine.environment.depth + 1) ++ [command.target] := by
  rcases dispatch_eq_ok_iff.mp ran with
      ⟨_, ⟨_, impossible, _⟩ | ⟨callee, returned, _, called, rfl⟩⟩
  · cases impossible
  · obtain ⟨_, same⟩ := kept_targetsAt.call called
    rw [depth_enter] at same
    have entered := same _ (Nat.le_refl _)
    rw [targetsAt_enter, if_pos rfl] at entered
    exact entered

theorem targetsAt_commands
    {fuel : Nat}
    {commands : List Command}
    (ran :
      inOrder (runCommand fuel frame) commands machine = .ok (.ok (), after)) :
    after.targetsAt (machine.environment.depth + 1) =
      machine.targetsAt (machine.environment.depth + 1) ++
        commands.map Command.target := by
  induction commands generalizing machine with
  | nil =>
      cases ran
      simp
  | cons command rest inductionHypothesis =>
      rcases inOrder_cons_eq_ok_iff.mp ran with
          ⟨_, impossible, _⟩ | ⟨middle, firstRan, restRan⟩
      · cases impossible
      · have restLogged := inductionHypothesis restRan
        rw [(kept_changesAlong.runCommand firstRan).toSameShape.depth,
          targetsAt_runCommand firstRan] at restLogged
        rw [restLogged, List.append_assoc]
        rfl

/-- The machine once every command of the stack that completed had done so. -/
def lastCompleted
    (machine : Machine) :
    List Activation →
    Machine
  | [] => machine
  | activation :: deeper => lastCompleted activation.middle deeper

namespace FailsThrough

variable
  {stack : List Activation}
  {cause : Failure}
  {stopped : Machine}

theorem isCause
    (failed : FailsThrough function frame machine stack cause stopped) :
    cause.IsCause := by
  induction failed with
  | builtin executed => exact (FailsBare.execute executed).isCause
  | undefined _ _ => trivial
  | through _ _ _ inductionHypothesis => exact inductionHypothesis

/-- Every activation of the stack came as far as it says. -/
theorem arrived
    (failed : FailsThrough function frame machine stack cause stopped) :
    ∀ activation ∈ stack, activation.Arrived := by
  induction failed with
  | builtin executed =>
      intro activation member
      cases member
  | undefined arrived _ =>
      intro activation member
      rwa [List.mem_singleton.mp member]
  | through arrived _ _ inductionHypothesis =>
      intro activation member
      rcases List.mem_cons.mp member with rfl | deeper
      · exact arrived
      · exact inductionHypothesis activation deeper

/-- Up to where it stops, a run logs no dispatch with as few live frames as at its start. -/
theorem targetsAt_start
    (failed : FailsThrough function frame machine stack cause stopped)
    {live : Nat}
    (within : live ≤ machine.environment.depth) :
    stopped.targetsAt live = machine.targetsAt live := by
  induction failed with
  | builtin executed => exact targetsAt_of_log (FailsBare.execute executed).log live
  | undefined arrived _ =>
      obtain ⟨fuel, completed⟩ := arrived.completed
      exact (kept_targetsAt.commands completed).2 live within
  | @through activation callee stack cause stopped arrived _ _ inductionHypothesis =>
      obtain ⟨fuel, completed⟩ := arrived.completed
      obtain ⟨sameDepth, same⟩ := kept_targetsAt.commands completed
      have entered := inductionHypothesis (by
        rw [arrived.depth_entered]
        exact Nat.le_succ_of_le within)
      rw [entered, Activation.entered, targetsAt_enter, if_neg (by omega),
        List.append_nil]
      exact same live within

/-- Each activation dispatched the commands up to its current one, and none behind it. -/
theorem targetsAt_dispatched
    (failed : FailsThrough function frame machine stack cause stopped) :
    ∀ activation ∈ stack,
      stopped.targetsAt (activation.start.environment.depth + 1) =
        activation.start.targetsAt (activation.start.environment.depth + 1) ++
          activation.dispatched.map Command.target := by
  induction failed with
  | builtin executed =>
      intro activation member
      cases member
  | @undefined current arrived nothing =>
      intro activation member
      obtain rfl : activation = current := List.mem_singleton.mp member
      obtain ⟨fuel, completed⟩ := arrived.completed
      rw [targetsAt_commands completed, Activation.dispatched, nothing]
  | @through current callee stack cause stopped arrived found deeper
      inductionHypothesis =>
      intro activation member
      rcases List.mem_cons.mp member with rfl | inStack
      · obtain ⟨fuel, completed⟩ := arrived.completed
        have within := Nat.le_of_eq (arrived.depth_entered callee).symm
        rw [deeper.targetsAt_start within, Activation.entered, targetsAt_enter,
          if_pos (by rw [arrived.sameShape.depth]), targetsAt_commands completed,
          Activation.dispatched, found]
        simp
      · exact inductionHypothesis activation inStack

/-- From the last completed command on, the frames there were at the start kept their variables. -/
theorem variables_lastCompleted
    (failed : FailsThrough function frame machine stack cause stopped)
    {place : Nat}
    (live : machine.environment.isLive place) :
    stopped.environment.variables place =
      (lastCompleted machine stack).environment.variables place := by
  induction failed with
  | builtin executed => rw [(FailsBare.execute executed).environment, lastCompleted]
  | undefined _ _ => rfl
  | @through activation callee stack cause stopped arrived _ _ inductionHypothesis =>
      have before : place < activation.middle.environment.depth := by
        rw [arrived.sameShape.depth]
        exact Environment.isLive_iff.mp live
      have enteredLive : (activation.entered callee).environment.isLive place := by
        rw [Environment.isLive_iff, arrived.depth_entered]
        exact Nat.lt_succ_of_lt (Environment.isLive_iff.mp live)
      have sameAfter := inductionHypothesis enteredLive
      cases stack with
      | cons next deeper => exact sameAfter
      | nil =>
          rw [sameAfter, lastCompleted, lastCompleted, lastCompleted,
            Activation.entered, environment_enter, Environment.variables_extend,
            if_neg (Nat.ne_of_lt before)]

/-- From the last completed command on, nothing was written but a part of a line. -/
theorem sink_lastCompleted
    (failed : FailsThrough function frame machine stack cause stopped) :
    (cause.kind ≠ .inputOutput →
        stopped.sink = (lastCompleted machine stack).sink) ∧
      ∃ part,
        stopped.sink.written = (lastCompleted machine stack).sink.written ++ part := by
  induction failed with
  | builtin executed =>
      have bare := FailsBare.execute executed
      exact ⟨bare.sink, bare.written⟩
  | undefined _ _ => exact ⟨fun _ => rfl, .empty, ByteArray.append_empty.symm⟩
  | @through activation callee stack cause stopped _ _ _ inductionHypothesis =>
      -- Entering the frame of a function leaves the sink as it is.
      cases stack with
      | cons next deeper => exact inductionHypothesis
      | nil => exact inductionHypothesis

/-- The first function of a stack is the one that failed. -/
theorem function_eq
    {activation : Activation}
    (failed :
      FailsThrough function frame machine (activation :: stack) cause stopped) :
    function = .composite activation.body := by
  cases failed <;> rfl

/-- A composite function that fails stands on the stack itself. -/
theorem exists_activation
    {body : Composite}
    (failed : FailsThrough function frame machine stack cause stopped)
    (isBody : function = .composite body) :
    ∃ activation deeper, stack = activation :: deeper ∧ activation.body = body := by
  cases failed with
  | builtin _ => cases isBody
  | undefined _ _ => exact ⟨_, _, rfl, Function.composite.inj isBody⟩
  | through _ _ _ => exact ⟨_, _, rfl, Function.composite.inj isBody⟩

/-- Where functions are bound under their own names, the layers are the targets of the calls. -/
theorem layersOf_eq_targets
    (failed : FailsThrough function frame machine stack cause stopped)
    (namesAgree : machine.environment.NamesAgree)
    (notEmpty : stack ≠ []) :
    layersOf stack =
      function.name :: stack.dropLast.map fun activation => activation.current.target := by
  induction failed with
  | builtin _ => exact absurd rfl notEmpty
  | undefined _ _ => rfl
  | @through activation callee stack cause stopped arrived found deeper
      inductionHypothesis =>
      have middleAgrees := namesAgree.of_sameShape arrived.sameShape
      cases stack with
      | nil => rfl
      | cons next rest =>
          obtain rfl := deeper.function_eq
          have inner :=
            inductionHypothesis (middleAgrees.extend _ _) (List.cons_ne_nil _ _)
          rw [List.dropLast_cons_of_ne_nil (List.cons_ne_nil _ _), List.map_cons,
            ← middleAgrees.name_of_function? found]
          exact congrArg (activation.body.name :: ·) inner

end FailsThrough

/--
What is reported of a run that failed through a stack, and what it leaves behind:
the failure, the dispatches of the functions on the stack, and the effects of the
commands that completed.
-/
structure Reports
    (before : Machine)
    (stack : List Activation)
    (cause failure : Failure)
    (after : Machine) :
    Prop where
  layers : failure = .within (layersOf stack) cause
  isCause : cause.IsCause
  kind : failure.kind = cause.kind
  message :
    failure.message =
      ": ".intercalate
        ((layersOf stack).map
            (fun name => "failed to execute function " ++ Text.quoted name) ++
          cause.layerMessage :: cause.detail)
  arrived : ∀ activation ∈ stack, activation.Arrived
  dispatched :
    ∀ activation ∈ stack,
      after.targetsAt (activation.start.environment.depth + 1) =
        activation.start.targetsAt (activation.start.environment.depth + 1) ++
          activation.dispatched.map Command.target
  «variables» :
    ∀ place,
      before.environment.isLive place →
        after.environment.variables place =
          (lastCompleted before stack).environment.variables place
  sink : cause.kind ≠ .inputOutput → after.sink = (lastCompleted before stack).sink
  written :
    ∃ part, after.sink.written = (lastCompleted before stack).sink.written ++ part

/-- A failure is reported of the stack through which a run fails. -/
def ReportedOf
    (failsThrough : List Activation → Failure → Machine → Prop)
    (before : Machine)
    (failure : Failure)
    (after : Machine) :
    Prop :=
  ∃ stack cause stopped,
    failsThrough stack cause stopped ∧
      after = stopped.leave before.environment.depth ∧
      Reports before stack cause failure after

/-- Frames of a run are dropped without a trace in the log or in what older frames hold. -/
theorem FailsThrough.reports
    {stack : List Activation}
    {cause : Failure}
    {stopped : Machine}
    (failed : FailsThrough function frame machine stack cause stopped)
    (live : machine.environment.isLive frame) :
    Reports machine stack cause (.within (layersOf stack) cause)
      (stopped.leave machine.environment.depth) where
  layers := rfl
  isCause := failed.isCause
  kind := Failure.kind_within _ _
  message := Failure.message_within failed.isCause _
  arrived := failed.arrived
  dispatched := failed.targetsAt_dispatched
  «variables» := by
    intro place placeLive
    have notRoot : machine.environment.depth ≠ Environment.root :=
      Nat.ne_of_gt (depth_pos live)
    rw [← failed.variables_lastCompleted placeLive]
    exact Environment.variables_pop notRoot (Environment.isLive_iff.mp placeLive)
  sink := failed.sink_lastCompleted.1
  written := failed.sink_lastCompleted.2

theorem call_reports
    {failure : Failure}
    (live : machine.environment.isLive frame)
    (fails :
      Finishes (fun fuel => machine.call fuel function frame) (.error failure) after) :
    ReportedOf (FailsThrough function frame machine) machine failure after := by
  obtain ⟨stack, cause, stopped, failed, rfl, rfl⟩ := (call_fails_iff live).mp fails
  exact ⟨stack, cause, stopped, failed, rfl, failed.reports live⟩

/-- A command alone is the body of a function that has just started. -/
def aloneIn
    (caller : Nat)
    (machine : Machine)
    (command : Command) :
    Activation where
  body := ⟨command.target, [command]⟩
  frame := caller
  start := machine
  completed := []
  middle := machine
  current := command
  pending := []

theorem arrived_aloneIn
    (caller : Nat)
    (machine : Machine)
    (command : Command) :
    (machine.aloneIn caller command).Arrived :=
  ⟨rfl, 0, rfl⟩

theorem runCommand_reports
    {failure : Failure}
    {command : Command}
    {caller : Nat}
    (fails :
      Finishes (fun fuel => machine.runCommand fuel caller command)
        (.error failure) after) :
    ReportedOf (CommandFailsThrough command caller machine) machine failure after := by
  obtain ⟨fuel, ran⟩ := fails
  have live := (dispatch_eq_ok_iff.mp ran).1
  obtain ⟨stack, cause, stopped, failed, rfl, rfl⟩ :=
    endsThrough_of_runCommand (fun _ _ _ _ _ => endsThrough_of_call) ran
  have alone :=
    (FailsThrough.of_command (arrived_aloneIn caller machine command) failed).reports live
  exact ⟨stack, cause, stopped, failed, rfl,
    { layers := rfl
      isCause := alone.isCause
      kind := Failure.kind_within _ _
      message := Failure.message_within alone.isCause _
      arrived := fun activation member =>
        alone.arrived activation (List.mem_cons_of_mem _ member)
      dispatched := fun activation member =>
        alone.dispatched activation (List.mem_cons_of_mem _ member)
      «variables» := alone.variables
      sink := alone.sink
      written := alone.written }⟩

/-- The stack of a script that fails begins with `init`, and names what its commands call. -/
def ScriptFailsThrough
    (commands : List Command)
    (machine merged : Machine)
    (stack : List Activation)
    (cause : Failure)
    (stopped : Machine) :
    Prop :=
  FailsThrough (.composite ⟨initName, commands⟩) Environment.root merged
      stack cause stopped ∧
    (layersOf stack).head? = some initName ∧
    (machine.environment.NamesAgree →
      layersOf stack =
        initName :: stack.dropLast.map fun activation => activation.current.target)

section Scripts

variable
  {failure : Failure}
  {source : ByteArray}
  {script : Script}

theorem namesAgree_merge
    (rootLive : machine.environment.isLive Environment.root)
    (accepted : Script.ofSource source = .ok script)
    (namesAgree : machine.environment.NamesAgree) :
    (machine.merge script).environment.NamesAgree := by
  obtain ⟨members, _, declared⟩ := Script.exists_members_of_ofSource accepted
  intro place name body bound
  rw [functions_merge rootLive, mergedFunction] at bound
  split at bound
  · rcases Option.or_eq_some_iff.mp bound with inScript | ⟨_, before⟩
    · exact Script.name_of_ofDeclarations declared inScript
    · exact namesAgree place name body before
  · exact namesAgree place name body bound

theorem runScript_reports
    (rootLive : machine.environment.isLive Environment.root)
    (accepted : Script.ofSource source = .ok script)
    (fails :
      Finishes (fun fuel => machine.runScript fuel script) (.error failure) after) :
    ∃ commands,
      script.functions[initName]? = some (.composite ⟨initName, commands⟩) ∧
        ReportedOf (ScriptFailsThrough commands machine (machine.merge script))
          (machine.merge script) failure after := by
  obtain ⟨members, _, declared⟩ := Script.exists_members_of_ofSource accepted
  obtain ⟨commands, bound⟩ := Script.exists_init_of_ofDeclarations declared
  have found :
      (machine.callable script)[initName]? = some (.composite ⟨initName, commands⟩) := by
    rw [callable, functions_merge rootLive, mergedFunction, if_pos rfl, bound]
    rfl
  have mergedLive := (knows_callable found).live
  obtain ⟨fuel, ran⟩ := fails
  rcases runScript_eq_ok_iff.mp ran with ⟨missing, _, _⟩ | ⟨init, isInit, called⟩
  · rw [found] at missing
    cases missing
  · obtain rfl : init = .composite ⟨initName, commands⟩ := by
      simpa [found, eq_comm] using isInit
    obtain ⟨stack, cause, stopped, failed, left, reports⟩ :=
      call_reports mergedLive ⟨fuel, called⟩
    obtain ⟨first, deeper, rfl, isInit⟩ := failed.exists_activation rfl
    refine ⟨commands, bound, _, cause, stopped, ⟨failed, ?_, ?_⟩, left, reports⟩
    · simp [layersOf, isInit]
    · intro namesAgree
      exact failed.layersOf_eq_targets
        (namesAgree_merge rootLive accepted namesAgree) (List.cons_ne_nil _ _)

/--
Failures report the path on which they arose, and stop there: those of a function in
a live frame, of a command, and of a script that was read, whose path begins with
`init`.
-/
theorem failure_reported :
    (∀ function frame failure after,
      machine.environment.isLive frame →
        Finishes (fun fuel => machine.call fuel function frame)
            (.error failure) after →
          ReportedOf (FailsThrough function frame machine) machine failure after) ∧
    (∀ command caller failure after,
      Finishes (fun fuel => machine.runCommand fuel caller command)
          (.error failure) after →
        ReportedOf (CommandFailsThrough command caller machine)
          machine failure after) ∧
    ∀ source script failure after,
      machine.environment.isLive Environment.root →
        Script.ofSource source = .ok script →
          Finishes (fun fuel => machine.runScript fuel script)
              (.error failure) after →
            ∃ commands,
              script.functions[initName]? =
                  some (.composite ⟨initName, commands⟩) ∧
                ReportedOf (ScriptFailsThrough commands machine (machine.merge script))
                  (machine.merge script) failure after :=
  ⟨fun _ _ _ _ => call_reports, fun _ _ _ _ => runCommand_reports,
    fun _ _ _ _ => runScript_reports⟩

/-- A script whose `init` assigns a variable, calls a function that fails, and would go on. -/
def failingStep : ByteArray :=
  "\x7b\"init\": [\x7b\"cmd\": \"create\", \"id\": \"a\", \"value\": 1\x7d, \x7b\"cmd\": \"step\"\x7d, \x7b\"cmd\": \"create\", \"id\": \"b\", \"value\": 2\x7d], \"step\": [\x7b\"cmd\": \"print\"\x7d]\x7d".toUTF8

/-- The failure names both functions, and the first variable alone stays behind. -/
theorem failingStep_reported :
    ∃ script failure after commands,
      Script.ofSource failingStep = .ok script ∧
        Finishes (fun fuel => bare.runScript fuel script) (.error failure) after ∧
        failure.message =
          "failed to execute function \"init\": failed to execute function \"step\": " ++
            "failed to evaluate function \"print\": missing \"value\" argument" ∧
        after.environment.value? .own Environment.root "a" = some "1" ∧
        after.environment.value? .own Environment.root "b" = none ∧
        ReportedOf (ScriptFailsThrough commands bare (bare.merge script))
          (bare.merge script) failure after := by
  have fails :
      (Script.ofSource failingStep).toOption.map
          (fun script =>
            (bare.runScript 2 script).toOption.map fun ended =>
              (((ended.1.map fun _ => "").tryCatch fun failure =>
                  .ok failure.message).toOption,
                ended.2.environment.value? .own Environment.root "a",
                ended.2.environment.value? .own Environment.root "b")) =
        some
          (some
            (some
              ("failed to execute function \"init\": failed to execute function \"step\": " ++
                "failed to evaluate function \"print\": missing \"value\" argument"),
              some "1", none)) := by
    decide +kernel
  obtain ⟨script, accepted, ends⟩ := exists_eq_ok_of_observed fails
  obtain ⟨outcome, after, ran, observed⟩ := exists_of_observed ends
  simp only [Prod.mk.injEq] at observed
  obtain ⟨isMessage, first, second⟩ := observed
  cases outcome with
  | ok done =>
      cases done
      exact absurd (Option.some.inj isMessage) (by decide)
  | error failure =>
      obtain ⟨commands, _, reported⟩ :=
        failure_reported.2.2 failingStep script failure after rfl accepted ⟨2, ran⟩
      exact ⟨script, failure, after, commands, accepted, ⟨2, ran⟩,
        Option.some.inj isMessage, first, second, reported⟩

end Scripts

end Machine

end FunctionScript
