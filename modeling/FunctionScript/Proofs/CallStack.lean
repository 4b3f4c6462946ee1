import FunctionScript.Proofs.CallPath

namespace FunctionScript

/-!
# Call stacks of failures

A run that fails does so at the bottom of a stack of composite functions, each of
which was entered through a command of the one before it, its earlier commands
having completed. A run fails exactly if there is such a stack; it then leaves the
functions of the stack one after another and drops the frames above its own.
-/

namespace Environment

/-- Dropping a frame drops those above it, whether they were dropped before or not. -/
theorem pop_pop
    {environment : Environment}
    {lower upper : Nat}
    (notRoot : lower ≠ root)
    (below : lower ≤ upper) :
    (environment.pop upper).pop lower = environment.pop lower := by
  have upperNotRoot : upper ≠ root := by
    simp only [root] at notRoot ⊢
    omega
  simp [pop, notRoot, upperNotRoot, Nat.min_eq_left below]

end Environment

/-- A composite function that is active, and the command of it that is being run. -/
structure Activation where
  body : Composite
  frame : Nat
  /-- The machine on which the function started. -/
  start : Machine
  /-- The commands that have completed. -/
  completed : List Command
  /-- The machine after these commands. -/
  middle : Machine
  /-- The command that is being run. -/
  current : Command
  /-- The commands that have not been dispatched. -/
  pending : List Command

namespace Activation

/-- The function has come as far as the activation says. -/
structure Arrived
    (activation : Activation) :
    Prop where
  split :
    activation.body.commands =
      activation.completed ++ activation.current :: activation.pending
  completed :
    Machine.Finishes
      (fun fuel =>
        Machine.inOrder (Machine.runCommand fuel activation.frame)
          activation.completed activation.start)
      (.ok ()) activation.middle

/-- The function that the current command calls. -/
def callee?
    (activation : Activation) :
    Option Function :=
  activation.middle.environment.function? .chain activation.frame
    activation.current.target

/-- The machine on which the function of the current command starts. -/
def entered
    (activation : Activation)
    (callee : Function) :
    Machine :=
  activation.middle.enter activation.frame activation.current callee

/-- The commands that have completed changed variables only. -/
theorem Arrived.sameShape
    {activation : Activation}
    (arrived : activation.Arrived) :
    Environment.SameShape
      activation.middle.environment activation.start.environment := by
  obtain ⟨fuel, completed⟩ := arrived.completed
  exact (Machine.kept_changesAlong.commands completed).toSameShape

/-- The function of the current command has one frame more than there were at the start. -/
theorem Arrived.depth_entered
    {activation : Activation}
    (arrived : activation.Arrived)
    (callee : Function) :
    (activation.entered callee).environment.depth =
      activation.start.environment.depth + 1 := by
  rw [entered, Machine.depth_enter, arrived.sameShape.depth]

theorem Arrived.isLive
    {activation : Activation}
    (arrived : activation.Arrived)
    (live : activation.start.environment.isLive activation.frame) :
    activation.middle.environment.isLive activation.frame := by
  rwa [arrived.sameShape.isLive]

end Activation

namespace Machine

variable
  {machine after : Machine}
  {function : Function}
  {frame : Nat}
  {failure : Failure}

theorem leave_leave
    {lower upper : Nat}
    (notRoot : lower ≠ Environment.root)
    (below : lower ≤ upper) :
    (machine.leave upper).leave lower = machine.leave lower := by
  simp [leave, Environment.pop_pop notRoot below]

theorem depth_pos
    (live : machine.environment.isLive frame) :
    0 < machine.environment.depth :=
  Nat.lt_of_le_of_lt (Nat.zero_le frame) (Environment.isLive_iff.mp live)

/-- Leaving a command's function and then its frame comes to leaving the frame. -/
theorem leave_leave_enter
    (live : machine.environment.isLive frame)
    (command : Command)
    (callee : Function)
    (stopped : Machine) :
    (stopped.leave (machine.enter frame command callee).environment.depth).leave
        machine.environment.depth =
      stopped.leave machine.environment.depth := by
  have below :
      machine.environment.depth ≤
        (machine.enter frame command callee).environment.depth := by
    rw [depth_enter]
    exact Nat.le_succ _
  exact leave_leave (Nat.ne_of_gt (depth_pos live)) below

theorem leave_depth
    (machine : Machine) :
    machine.leave machine.environment.depth = machine := by
  simp [leave, Environment.pop_of_depth_le]

theorem depth_execute
    (live : machine.environment.isLive frame)
    (builtin : Builtin) :
    (machine.execute builtin frame).2.environment.depth =
      machine.environment.depth :=
  (kept_changesAlong.execute builtin frame machine live).toSameShape.depth

/-- A list that fails does so at one command, those before it having completed. -/
theorem inOrder_eq_error_iff
    {step : α → Machine → Run}
    {items : List α} :
    inOrder step items machine = .ok (.error failure, after) ↔
      ∃ earlier current later middle,
        items = earlier ++ current :: later ∧
          inOrder step earlier machine = .ok (.ok (), middle) ∧
          step current middle = .ok (.error failure, after) := by
  induction items generalizing machine with
  | nil => simp [inOrder]
  | cons first rest inductionHypothesis =>
      rw [inOrder_cons_eq_ok_iff]
      constructor
      · rintro (⟨_, same, failed⟩ | ⟨next, firstRan, restFailed⟩)
        · cases same
          exact ⟨[], first, rest, machine, rfl, rfl, failed⟩
        · obtain ⟨earlier, current, later, middle, rfl, completed, failed⟩ :=
            inductionHypothesis.mp restFailed
          exact ⟨first :: earlier, current, later, middle, rfl,
            inOrder_cons_eq_ok_iff.mpr (.inr ⟨next, firstRan, completed⟩), failed⟩
      · rintro ⟨earlier, current, later, middle, split, completed, failed⟩
        cases earlier with
        | nil =>
            cases split
            cases completed
            exact .inl ⟨failure, rfl, failed⟩
        | cons head earlier =>
            cases split
            rcases inOrder_cons_eq_ok_iff.mp completed with
                ⟨_, impossible, _⟩ | ⟨next, firstRan, earlierRan⟩
            · cases impossible
            · exact .inr ⟨next, firstRan, inductionHypothesis.mpr
                ⟨earlier, current, later, middle, rfl, earlierRan, failed⟩⟩

/--
A function that runs in a frame fails through a stack of activations, the outermost
first, for a cause, and stops on a machine.
-/
inductive FailsThrough :
    Function →
    Nat →
    Machine →
    List Activation →
    Failure →
    Machine →
    Prop where
  /-- A builtin function fails by itself. -/
  | builtin
      {called : Builtin}
      {frame : Nat}
      {machine stopped : Machine}
      {cause : Failure}
      (executed : machine.execute called frame = (.error cause, stopped)) :
      FailsThrough (.builtin called) frame machine [] cause stopped
  /-- The current command calls a function that no frame on the chain binds. -/
  | undefined
      {activation : Activation}
      (arrived : activation.Arrived)
      (nothing : activation.callee? = none) :
      FailsThrough (.composite activation.body) activation.frame activation.start
        [activation] (.undefinedFunction activation.current.target) activation.middle
  /-- The function that the current command calls fails. -/
  | through
      {activation : Activation}
      {callee : Function}
      {stack : List Activation}
      {cause : Failure}
      {stopped : Machine}
      (arrived : activation.Arrived)
      (found : activation.callee? = some callee)
      (deeper :
        FailsThrough callee activation.middle.environment.depth
          (activation.entered callee) stack cause stopped) :
      FailsThrough (.composite activation.body) activation.frame activation.start
        (activation :: stack) cause stopped

/-- A command fails for want of its function, or because its function does. -/
inductive CommandFailsThrough
    (command : Command)
    (caller : Nat)
    (machine : Machine) :
    List Activation →
    Failure →
    Machine →
    Prop where
  | undefined
      (nothing :
        machine.environment.function? .chain caller command.target = none) :
      CommandFailsThrough command caller machine
        [] (.undefinedFunction command.target) machine
  | callee
      {callee : Function}
      {stack : List Activation}
      {cause : Failure}
      {stopped : Machine}
      (found :
        machine.environment.function? .chain caller command.target = some callee)
      (deeper :
        FailsThrough callee machine.environment.depth
          (machine.enter caller command callee) stack cause stopped) :
      CommandFailsThrough command caller machine stack cause stopped

/-- The names of the functions of a stack, the outermost first. -/
def layersOf
    (stack : List Activation) :
    List String :=
  stack.map fun activation => activation.body.name

/-- A call that fails does so through a stack, and leaves its functions and frames. -/
def EndsThrough
    (failsThrough : List Activation → Failure → Machine → Prop)
    (before : Machine)
    (failure : Failure)
    (after : Machine) :
    Prop :=
  ∃ stack cause stopped,
    failsThrough stack cause stopped ∧
      failure = .within (layersOf stack) cause ∧
      after = stopped.leave before.environment.depth

/-- A command fails as the function that it calls does, if it finds one. -/
theorem endsThrough_of_runCommand
    {fuel : Nat}
    {command : Command}
    (callFails :
      ∀ function frame machine failure after,
        machine.environment.isLive frame →
          call fuel function frame machine = .ok (.error failure, after) →
            EndsThrough (FailsThrough function frame machine) machine failure after)
    (ran : machine.runCommand fuel frame command = .ok (.error failure, after)) :
    EndsThrough (CommandFailsThrough command frame machine) machine failure after := by
  obtain ⟨live, ⟨nothing, same, rfl⟩ | ⟨callee, returned, found, called, rfl⟩⟩ :=
    dispatch_eq_ok_iff.mp ran
  · cases same
    exact ⟨[], _, after, .undefined nothing, rfl, (leave_depth _).symm⟩
  · obtain ⟨stack, cause, stopped, deeper, within, rfl⟩ :=
      callFails callee _ _ failure returned (Environment.isLive_extend _ _ _) called
    exact ⟨stack, cause, stopped, .callee found deeper, within,
      leave_leave_enter live command callee stopped⟩

/-- A composite function whose command fails through a stack fails through one more. -/
theorem FailsThrough.of_command
    {activation : Activation}
    (arrived : activation.Arrived)
    {stack : List Activation}
    {cause : Failure}
    {stopped : Machine}
    (failed :
      CommandFailsThrough activation.current activation.frame activation.middle
        stack cause stopped) :
    FailsThrough (.composite activation.body) activation.frame activation.start
      (activation :: stack) cause stopped := by
  cases failed with
  | undefined nothing => exact .undefined arrived nothing
  | callee found deeper => exact .through arrived found deeper

/-- Every call that fails does so through a stack. -/
theorem endsThrough_of_call
    {fuel : Nat}
    (live : machine.environment.isLive frame)
    (ran : machine.call fuel function frame = .ok (.error failure, after)) :
    EndsThrough (FailsThrough function frame machine) machine failure after := by
  induction fuel, function using call_induction
    generalizing frame machine failure after with
  | builtin fuel builtin =>
      rw [call_builtin, callBuiltin_eq_ok_iff] at ran
      have sameDepth := depth_execute live builtin
      rw [ran.2] at sameDepth
      refine ⟨[], failure, after, .builtin ran.2, rfl, ?_⟩
      rw [← sameDepth, leave_depth]
  | withoutFuel body => cases ran
  | composite fuel body inductionHypothesis =>
      obtain ⟨less, inner, sameFuel, commandsRan, annotated⟩ :=
        call_composite_eq_ok_iff.mp ran
      cases sameFuel
      cases inner with
      | ok done => cases annotated
      | error inside =>
          obtain rfl : failure = .inFunction body.name inside :=
            Except.error.inj annotated
          obtain ⟨earlier, current, later, middle, split, completed, failed⟩ :=
            inOrder_eq_error_iff.mp commandsRan
          have sameDepth := (kept_changesAlong.commands completed).toSameShape.depth
          obtain ⟨stack, cause, stopped, commandFailed, rfl, rfl⟩ :=
            endsThrough_of_runCommand
              (fun function _ _ _ _ live => inductionHypothesis function live) failed
          have arrived :
              Activation.Arrived ⟨body, frame, machine, earlier, middle, current, later⟩ :=
            ⟨split, fuel, completed⟩
          exact ⟨_, cause, stopped, .of_command arrived commandFailed, rfl,
            by rw [sameDepth]⟩

/-- A composite function finishes with the failure of its current command. -/
theorem finishes_of_current
    {activation : Activation}
    (arrived : activation.Arrived)
    (failed :
      Finishes
        (fun fuel =>
          activation.middle.runCommand fuel activation.frame activation.current)
        (.error failure) after) :
    Finishes
      (fun fuel =>
        activation.start.call fuel (.composite activation.body) activation.frame)
      (.error (.inFunction activation.body.name failure)) after := by
  obtain ⟨firstFuel, completed⟩ := arrived.completed
  obtain ⟨secondFuel, failed⟩ := failed
  have commandsRan :
      inOrder (runCommand (max firstFuel secondFuel) activation.frame)
          activation.body.commands activation.start =
        .ok (.error failure, after) :=
    inOrder_eq_error_iff.mpr
      ⟨_, _, _, _, arrived.split, commands_mono (Nat.le_max_left _ _) completed,
        runCommand_mono (Nat.le_max_right _ _) failed⟩
  exact ⟨_, call_composite_eq_ok_iff.mpr ⟨_, _, rfl, commandsRan, rfl⟩⟩

/-- A stack through which a function can fail is one through which it does. -/
theorem FailsThrough.finishes
    {stack : List Activation}
    {cause : Failure}
    {stopped : Machine}
    (failed : FailsThrough function frame machine stack cause stopped)
    (live : machine.environment.isLive frame) :
    Finishes (fun fuel => machine.call fuel function frame)
      (.error (.within (layersOf stack) cause))
      (stopped.leave machine.environment.depth) := by
  induction failed with
  | @builtin called frame machine stopped cause executed =>
      have sameDepth := depth_execute live called
      rw [executed] at sameDepth
      rw [← sameDepth, leave_depth]
      exact ⟨0, callBuiltin_eq_ok_iff.mpr ⟨live, executed⟩⟩
  | @undefined activation arrived nothing =>
      have middleLive := arrived.isLive live
      rw [← arrived.sameShape.depth, leave_depth]
      exact finishes_of_current arrived
        ⟨0, dispatch_eq_ok_iff.mpr ⟨middleLive, .inl ⟨nothing, rfl, rfl⟩⟩⟩
  | @through activation callee stack cause stopped arrived found _ inductionHypothesis =>
      have middleLive := arrived.isLive live
      obtain ⟨fuel, called⟩ := inductionHypothesis (Environment.isLive_extend _ _ _)
      have left :=
        leave_leave_enter middleLive activation.current callee stopped
      rw [← arrived.sameShape.depth, ← left]
      exact finishes_of_current arrived
        ⟨fuel, dispatch_eq_ok_iff.mpr
          ⟨middleLive, .inr ⟨callee, _, found, called, rfl⟩⟩⟩

/-- A function fails exactly if there is a stack through which it does. -/
theorem call_fails_iff
    (live : machine.environment.isLive frame) :
    Finishes (fun fuel => machine.call fuel function frame) (.error failure) after ↔
      EndsThrough (FailsThrough function frame machine) machine failure after := by
  constructor
  · rintro ⟨fuel, ran⟩
    exact endsThrough_of_call live ran
  · rintro ⟨stack, cause, stopped, failed, rfl, rfl⟩
    exact failed.finishes live

end Machine

end FunctionScript
