import FunctionScript.Proofs.CallPath
import FunctionScript.Proofs.Effects
import FunctionScript.Proofs.Sinks

namespace FunctionScript

/-!
# Sinks that fill up

Output never influences evaluation, except that a write fails when the sink is
full. A run with limited room is therefore the run without limit up to the print
whose line does not fit: that print writes what fits and fails, and the failure
leaves the functions that are active there.
-/

/-- An effect that writes nothing. -/
def Effect.IsSilent
    (effect : Effect) :
    Prop :=
  ∀ line, effect ≠ .write line

theorem Effect.isWrite_or_isSilent
    (effect : Effect) :
    (∃ line, effect = .write line) ∨ effect.IsSilent := by
  cases effect with
  | write line => exact .inl ⟨line, rfl⟩
  | assign name value | update name value | delete name =>
      exact .inr fun _ same => nomatch same

namespace Machine

theorem sink_perform
    {effect : Effect}
    (silent : effect.IsSilent)
    {machine : Machine}
    {builtin : Builtin}
    {frame : Nat} :
    (machine.perform builtin frame effect).2.sink = machine.sink := by
  cases effect with
  | assign name value => rfl
  | update name value =>
      simp only [perform]
      cases machine.environment.update? frame name value <;> rfl
  | delete name =>
      simp only [perform]
      cases machine.environment.delete? frame name <;> rfl
  | write line => exact absurd rfl (silent line)

/-- What was written stays, and the limit of the sink too. -/
theorem kept_written :
    Kept fun _ before after => before.sink.Extends after.sink where
  refl := fun _ machine => .refl machine.sink
  trans := fun _ _ _ _ earlier later => earlier.trans later
  execute := by
    intro builtin frame machine _
    simp only [execute]
    cases builtin.effect machine.environment frame with
    | error failure => exact .refl machine.sink
    | ok effect =>
        rcases effect.isWrite_or_isSilent with ⟨line, rfl⟩ | silent
        · simp only [perform_write]
          exact machine.sink.extends_write line.toUTF8
        · simp only [sink_perform silent]
          exact .refl machine.sink
  dispatch := fun _ _ _ _ _ _ kept => kept

/-- The machine with a limit to how much its sink takes in all. -/
def capped
    (machine : Machine)
    (capacity : Nat) :
    Machine :=
  { machine with sink := machine.sink.capped capacity }

/-- A print is about to write a line that does not fit any more. -/
def Overflows
    (capacity place : Nat)
    (machine : Machine) :
    Prop :=
  ∃ line,
    Builtin.print.effect machine.environment place = .ok (.write line) ∧
      machine.sink.written.size ≤ capacity ∧
      capacity < machine.sink.written.size + line.toUTF8.size

/-- A limited run that was cut off where the sink overflowed. -/
structure CutOff
    (capacity : Nat)
    (machine after : Machine)
    (place : Nat)
    (reached stopped : Machine) :
    Prop where
  exceeds : capacity < after.sink.written.size
  overflows : Overflows capacity place reached
  written : stopped.sink.written = after.sink.written.extract 0 capacity
  earlierVariables :
    ∀ earlier, machine.environment.isLive earlier →
      stopped.environment.variables earlier = reached.environment.variables earlier

/--
What the limited run comes to when the run without limit comes to an outcome and a
machine: to the same if all output fits, and otherwise it is cut off at a point of
the run without limit.
-/
inductive Truncated
    (capacity : Nat)
    (machine : Machine)
    (reaches : List String → Nat → Machine → Prop)
    (outcome : Outcome)
    (after : Machine) :
    Run →
    Prop where
  | whole
      (fits : after.sink.written.size ≤ capacity) :
      Truncated capacity machine reaches outcome after
        (.ok (outcome, after.capped capacity))
  | cut
      {layers : List String}
      {place : Nat}
      {reached stopped : Machine}
      {failure : Failure}
      (reaching : reaches layers place reached)
      (failed : failure = .within layers (.inputOutput machine.sink.fullReason))
      (cutOff : CutOff capacity machine after place reached stopped) :
      Truncated capacity machine reaches outcome after
        (.ok (.error failure, stopped))

section Truncation

variable
  {capacity : Nat}
  {machine after : Machine}
  {reaches further : List String → Nat → Machine → Prop}
  {outcome : Outcome}
  {run : Run}

/-- Leaving a function puts a layer around the failure where the run was cut off. -/
theorem Truncated.annotate
    {name : String}
    (truncated : Truncated capacity machine reaches outcome after run)
    (extend :
      ∀ layers place reached,
        reaches layers place reached → further (name :: layers) place reached) :
    Truncated capacity machine further
      (outcome.mapError (.inFunction name)) after
      (run.annotate (.inFunction name)) := by
  cases truncated with
  | whole fits => exact .whole fits
  | cut reaching failed cutOff =>
      exact .cut (extend _ _ _ reaching) (congrArg (Failure.inFunction name) failed)
        cutOff

theorem perform_capped
    {effect : Effect}
    (silent : effect.IsSilent)
    (machine : Machine)
    (builtin : Builtin)
    (frame capacity : Nat) :
    (machine.capped capacity).perform builtin frame effect =
      ((machine.perform builtin frame effect).1,
        (machine.perform builtin frame effect).2.capped capacity) := by
  cases effect with
  | assign name value => rfl
  | update name value =>
      simp only [perform, capped]
      cases machine.environment.update? frame name value <;> rfl
  | delete name =>
      simp only [perform, capped]
      cases machine.environment.delete? frame name <;> rfl
  | write line => exact absurd rfl (silent line)

/-- A limited sink takes the line of a print, or it is where the run is cut off. -/
theorem truncated_write
    {frame : Nat}
    {line : String}
    (settled : Builtin.print.effect machine.environment frame = .ok (.write line))
    (unlimited : machine.sink.capacity = none)
    (room : machine.sink.written.size ≤ capacity)
    (performed : machine.perform .print frame (.write line) = (outcome, after)) :
    Truncated capacity machine
      (Reaches (.builtin .print) frame machine · (.builtin .print))
      outcome after
      (.ok ((machine.capped capacity).perform .print frame (.write line))) := by
  simp only [perform_write, Sink.write_unlimited unlimited] at performed
  cases performed
  by_cases fits : machine.sink.written.size + line.toUTF8.size ≤ capacity
  · simp only [perform_write, capped, Sink.write_capped_of_le fits]
    exact .whole (by simpa using fits)
  · have exceeds := Nat.lt_of_not_le fits
    simp only [perform_write, capped, Sink.write_capped_of_lt room exceeds]
    have starts :
        Reaches (.builtin .print) frame machine [] (.builtin .print) frame machine :=
      .start _ _ _
    exact .cut starts rfl
      { exceeds := by simpa using exceeds
        overflows := ⟨line, settled, room, exceeds⟩
        written := rfl
        earlierVariables := fun _ _ => rfl }

theorem truncated_callBuiltin
    {builtin : Builtin}
    {frame : Nat}
    (unlimited : machine.sink.capacity = none)
    (room : machine.sink.written.size ≤ capacity)
    (finished : machine.callBuiltin builtin frame = .ok (outcome, after)) :
    Truncated capacity machine
      (Reaches (.builtin builtin) frame machine · (.builtin .print))
      outcome after
      ((machine.capped capacity).callBuiltin builtin frame) := by
  obtain ⟨live, executed⟩ := callBuiltin_eq_ok_iff.mp finished
  have cappedLive : (machine.capped capacity).environment.isLive frame := live
  have sameEffect :
      builtin.effect (machine.capped capacity).environment frame =
        builtin.effect machine.environment frame :=
    rfl
  simp only [callBuiltin, cappedLive, ↓reduceIte]
  simp only [execute, sameEffect] at executed ⊢
  cases settled : builtin.effect machine.environment frame with
  | error failure =>
      rw [settled] at executed
      cases executed
      exact .whole room
  | ok effect =>
      rw [settled] at executed
      rcases effect.isWrite_or_isSilent with ⟨line, rfl⟩ | silent
      · obtain rfl : builtin = .print := Builtin.belongsTo_of_effect settled
        exact truncated_write settled unlimited room executed
      · have sameSink :
            (machine.perform builtin frame effect).2.sink = machine.sink :=
          sink_perform silent
        simp only at executed ⊢
        rw [executed] at sameSink
        rw [perform_capped silent, executed]
        exact .whole (by rwa [sameSink])

/-- The points of a run that lie in the function a command calls. -/
def ReachesByCommand
    (caller : Nat)
    (command : Command)
    (machine : Machine)
    (layers : List String)
    (place : Nat)
    (reached : Machine) :
    Prop :=
  ∃ callee,
    machine.environment.function? .chain caller command.target = some callee ∧
      Reaches callee machine.environment.depth (machine.enter caller command callee)
        layers (.builtin .print) place reached

/-- The points of a run that lie in one of the commands of a list. -/
def ReachesByCommands
    (caller : Nat)
    (commands : List Command)
    (machine : Machine)
    (layers : List String)
    (place : Nat)
    (reached : Machine) :
    Prop :=
  ∃ earlier command later middle,
    commands = earlier ++ command :: later ∧
      Finishes (fun fuel => inOrder (runCommand fuel caller) earlier machine)
        (.ok ()) middle ∧
      ReachesByCommand caller command middle layers place reached

theorem ReachesByCommands.head
    {caller place : Nat}
    {command : Command}
    {rest : List Command}
    {layers : List String}
    {reached : Machine}
    (reaching : ReachesByCommand caller command machine layers place reached) :
    ReachesByCommands caller (command :: rest) machine layers place reached :=
  ⟨[], command, rest, machine, rfl, ⟨0, rfl⟩, reaching⟩

/-- The points behind a command that succeeded are points of the whole list. -/
theorem ReachesByCommands.behind
    {fuel caller place : Nat}
    {command : Command}
    {rest : List Command}
    {layers : List String}
    {middle reached : Machine}
    (ran : machine.runCommand fuel caller command = .ok (.ok (), middle))
    (reaching : ReachesByCommands caller rest middle layers place reached) :
    ReachesByCommands caller (command :: rest) machine layers place reached := by
  obtain ⟨earlier, next, later, between, rfl, ⟨more, completed⟩, reaching⟩ := reaching
  refine ⟨command :: earlier, next, later, between, rfl, ⟨max fuel more, ?_⟩, reaching⟩
  exact inOrder_cons_eq_ok_iff.mpr (.inr ⟨middle,
    runCommand_mono (Nat.le_max_left fuel more) ran,
    commands_mono (Nat.le_max_right fuel more) completed⟩)

/-- The limited sink truncates every call that finishes with the fuel. -/
def CallsTruncated
    (capacity fuel : Nat) :
    Prop :=
  ∀ function frame machine outcome after,
    call fuel function frame machine = .ok (outcome, after) →
      machine.sink.capacity = none →
        machine.sink.written.size ≤ capacity →
          Truncated capacity machine
            (Reaches function frame machine · (.builtin .print))
            outcome after ((machine.capped capacity).call fuel function frame)

/-- A run that was cut off in the function of a command was cut off in the command. -/
theorem CutOff.leave
    {caller place : Nat}
    {command : Command}
    {callee : Function}
    {returned reached stopped : Machine}
    (cutOff :
      CutOff capacity (machine.enter caller command callee) returned
        place reached stopped) :
    CutOff capacity machine (returned.leave machine.environment.depth)
      place reached (stopped.leave machine.environment.depth) where
  exceeds := cutOff.exceeds
  overflows := cutOff.overflows
  written := cutOff.written
  earlierVariables := by
    intro earlier earlierLive
    have before : earlier < machine.environment.depth :=
      Environment.isLive_iff.mp earlierLive
    have notRoot : machine.environment.depth ≠ Environment.root := by
      simp only [Environment.root]
      omega
    have liveInside :
        (machine.enter caller command callee).environment.isLive earlier := by
      rw [environment_enter, Environment.isLive_iff, Environment.depth_extend]
      omega
    rw [← cutOff.earlierVariables earlier liveInside]
    exact Environment.variables_pop notRoot before

/-- A run that goes on after it was cut off was cut off all the same. -/
theorem CutOff.later
    {place : Nat}
    {middle reached stopped : Machine}
    (cutOff : CutOff capacity machine middle place reached stopped)
    {output : ByteArray}
    (goesOn : after.sink.written = middle.sink.written ++ output) :
    CutOff capacity machine after place reached stopped where
  exceeds := by
    have exceeds := cutOff.exceeds
    rw [goesOn, ByteArray.size_append]
    omega
  overflows := cutOff.overflows
  written := by
    have nothingLater : output.extract 0 (capacity - middle.sink.written.size) = .empty := by
      have exceeds := cutOff.exceeds
      rw [ByteArray.extract_eq_empty_iff]
      omega
    rw [cutOff.written, goesOn, ByteArray.extract_append, Nat.zero_sub, nothingLater,
      ByteArray.append_empty]
  earlierVariables := cutOff.earlierVariables

/-- A run that was cut off behind a command was cut off in the whole list. -/
theorem CutOff.behind
    {place : Nat}
    {middle reached stopped : Machine}
    (cutOff : CutOff capacity middle after place reached stopped)
    (sameShape : Environment.SameShape middle.environment machine.environment) :
    CutOff capacity machine after place reached stopped where
  exceeds := cutOff.exceeds
  overflows := cutOff.overflows
  written := cutOff.written
  earlierVariables := by
    intro earlier earlierLive
    rw [← sameShape.isLive] at earlierLive
    exact cutOff.earlierVariables earlier earlierLive

/-- What a limited sink makes of a command, given what it makes of calls. -/
theorem truncated_runCommand
    {fuel caller : Nat}
    {command : Command}
    (callsTruncated : CallsTruncated capacity fuel)
    (unlimited : machine.sink.capacity = none)
    (room : machine.sink.written.size ≤ capacity)
    (finished : machine.runCommand fuel caller command = .ok (outcome, after)) :
    Truncated capacity machine (ReachesByCommand caller command machine)
      outcome after ((machine.capped capacity).runCommand fuel caller command) := by
  obtain ⟨live, dispatched⟩ := dispatch_eq_ok_iff.mp finished
  have cappedLive : (machine.capped capacity).environment.isLive caller := live
  rcases dispatched with
      ⟨undefined, rfl, rfl⟩ | ⟨callee, returned, found, called, rfl⟩
  · have cappedRan :
        (after.capped capacity).runCommand fuel caller command =
          .ok (.error (.undefinedFunction command.target), after.capped capacity) :=
      dispatch_eq_ok_iff.mpr ⟨cappedLive, .inl ⟨undefined, rfl, rfl⟩⟩
    rw [cappedRan]
    exact .whole room
  · have calleeTruncated := callsTruncated _ _ _ _ _ called unlimited room
    generalize cappedCalled :
      ((machine.enter caller command callee).capped capacity).call fuel callee
        machine.environment.depth = cappedRun at calleeTruncated
    cases calleeTruncated with
    | whole fits =>
        have cappedRan :
            (machine.capped capacity).runCommand fuel caller command =
              .ok (outcome, (returned.leave machine.environment.depth).capped capacity) :=
          dispatch_eq_ok_iff.mpr
            ⟨cappedLive, .inr ⟨callee, _, found, cappedCalled, rfl⟩⟩
        rw [cappedRan]
        exact .whole fits
    | @cut layers place reached stopped failure reaching failed cutOff =>
        have cappedRan :
            (machine.capped capacity).runCommand fuel caller command =
              .ok (.error failure, stopped.leave machine.environment.depth) :=
          dispatch_eq_ok_iff.mpr
            ⟨cappedLive, .inr ⟨callee, stopped, found, cappedCalled, rfl⟩⟩
        rw [cappedRan]
        exact .cut ⟨callee, found, reaching⟩ failed cutOff.leave

theorem truncated_commands
    {fuel caller : Nat}
    {commands : List Command}
    (callsTruncated : CallsTruncated capacity fuel)
    (finished :
      inOrder (runCommand fuel caller) commands machine = .ok (outcome, after))
    (unlimited : machine.sink.capacity = none)
    (room : machine.sink.written.size ≤ capacity) :
    Truncated capacity machine (ReachesByCommands caller commands machine)
      outcome after
      (inOrder (runCommand fuel caller) commands (machine.capped capacity)) := by
  induction commands generalizing machine with
  | nil =>
      cases finished
      exact .whole room
  | cons command rest inductionHypothesis =>
      rw [inOrder]
      rcases inOrder_cons_eq_ok_iff.mp finished with
          ⟨failure, rfl, ran⟩ | ⟨middle, ran, restFinished⟩ <;>
        have commandTruncated :=
          truncated_runCommand callsTruncated unlimited room ran <;>
        generalize (machine.capped capacity).runCommand fuel caller command = cappedRun
          at commandTruncated ⊢
      · cases commandTruncated with
        | whole fits => exact .whole fits
        | cut reaching failed cutOff => exact .cut (.head reaching) failed cutOff
      · have goesOnFirst := kept_written.runCommand ran
        obtain ⟨output, goesOn⟩ := (kept_written.commands restFinished).written
        cases commandTruncated with
        -- What the other commands write lies behind the limit and is cut off as well.
        | cut reaching failed cutOff =>
            exact .cut (.head reaching) failed (cutOff.later goesOn)
        | whole fits =>
            have sameShape := (kept_changesAlong.runCommand ran).toSameShape
            have restTruncated :=
              inductionHypothesis restFinished (goesOnFirst.sameCapacity.trans unlimited) fits
            simp only
            generalize inOrder (runCommand fuel caller) rest (middle.capped capacity) =
              restRun at restTruncated ⊢
            cases restTruncated with
            | whole fits => exact .whole fits
            | cut reaching failed cutOff =>
                rw [goesOnFirst.sameReason] at failed
                exact .cut (.behind ran reaching) failed (cutOff.behind sameShape)

/-- What a limited sink makes of a call. -/
theorem truncated_call
    {fuel frame : Nat}
    {function : Function}
    (finished : machine.call fuel function frame = .ok (outcome, after))
    (unlimited : machine.sink.capacity = none)
    (room : machine.sink.written.size ≤ capacity) :
    Truncated capacity machine
      (Reaches function frame machine · (.builtin .print))
      outcome after ((machine.capped capacity).call fuel function frame) := by
  induction fuel, function using call_induction
    generalizing frame machine outcome after with
  | builtin fuel builtin =>
      rw [call_builtin] at finished ⊢
      exact truncated_callBuiltin unlimited room finished
  | withoutFuel body => cases finished
  | composite fuel body inductionHypothesis =>
      obtain ⟨less, inner, sameFuel, ran, rfl⟩ :=
        call_composite_eq_ok_iff.mp finished
      cases sameFuel
      have callsTruncated : CallsTruncated capacity fuel :=
        fun function _ _ _ _ => inductionHypothesis function
      refine Truncated.annotate
        (truncated_commands callsTruncated ran unlimited room) ?_
      rintro layers place reached
        ⟨earlier, command, later, middle, split, completed, callee, found, deeper⟩
      exact .through split completed found deeper

end Truncation

/-- The machine with a sink that takes only so many bytes more. -/
def withRoom
    (machine : Machine)
    (room : Nat) :
    Machine :=
  machine.capped (machine.sink.written.size + room)

/--
A sink that fills up only cuts a run off. If all output fits, the run with limited
room ends as the run without limit does. Otherwise it fails where a print of that
run has a line that crosses the limit, the variables of all frames that were there
before are as they were then, and exactly the output that fits was written.
-/
theorem call_withRoom
    {machine after : Machine}
    {function : Function}
    {frame : Nat}
    {outcome : Outcome}
    (room : Nat)
    (unlimited : machine.sink.capacity = none)
    (finishes :
      Finishes (fun fuel => machine.call fuel function frame) outcome after) :
    ∃ output limitedOutcome limited,
      after.sink.written = machine.sink.written ++ output ∧
      Finishes (fun fuel => (machine.withRoom room).call fuel function frame)
        limitedOutcome limited ∧
      (output.size ≤ room →
        limitedOutcome = outcome ∧
        limited.environment = after.environment ∧
        limited.sink.written = machine.sink.written ++ output) ∧
      (room < output.size →
        limited.sink.written = machine.sink.written ++ output.extract 0 room ∧
        ∃ layers place reached line,
          limitedOutcome =
            .error (.within layers (.inputOutput machine.sink.fullReason)) ∧
          (Failure.within layers (.inputOutput machine.sink.fullReason)).kind =
            .inputOutput ∧
          Reaches function frame machine layers (.builtin .print) place reached ∧
          Builtin.print.effect reached.environment place = .ok (.write line) ∧
          reached.sink.written.size ≤ machine.sink.written.size + room ∧
          machine.sink.written.size + room <
            reached.sink.written.size + line.toUTF8.size ∧
          ∀ earlier, machine.environment.isLive earlier →
            limited.environment.variables earlier =
              reached.environment.variables earlier) := by
  obtain ⟨fuel, ran⟩ := finishes
  obtain ⟨output, written⟩ := (kept_written.call ran).written
  have truncated :=
    truncated_call ran unlimited (Nat.le_add_right machine.sink.written.size room)
  have sameSize :
      after.sink.written.size = machine.sink.written.size + output.size := by
    rw [written, ByteArray.size_append]
  generalize limitedRan :
    (machine.capped (machine.sink.written.size + room)).call fuel function frame =
      limitedRun at truncated
  cases truncated with
  | whole fits =>
      refine ⟨output, outcome, _, written, ⟨fuel, limitedRan⟩,
        fun _ => ⟨rfl, rfl, written⟩, ?_⟩
      intro exceeds
      omega
  | @cut layers place reached stopped failure reaching failed cutOff =>
      have exceeds := cutOff.exceeds
      obtain ⟨line, writes, before, crosses⟩ := cutOff.overflows
      refine ⟨output, _, stopped, written, ⟨fuel, limitedRan⟩, ?_, ?_⟩
      · intro fits
        omega
      · intro _
        refine ⟨?_, layers, place, reached, line, congrArg Except.error failed,
          Failure.kind_within _ _, reaching, writes, before, crosses,
          cutOff.earlierVariables⟩
        rw [cutOff.written, written, ByteArray.extract_append, Nat.zero_sub,
          Nat.add_sub_cancel_left,
          Sink.extract_of_size_le (Nat.le_add_right _ room)]

/-- A body that prints two lines. -/
def twoLines : Composite where
  name := "twoLines"
  commands := [
    ⟨"print", [⟨"value", .literal "hello"⟩]⟩,
    ⟨"print", [⟨"value", .literal "world"⟩]⟩]

/-- With room for eight bytes, the second of two lines is cut, and its print fails. -/
theorem twoLines_withRoom :
    ∃ layers limited,
      Finishes
          (fun fuel =>
            (bare.withRoom 8).call fuel (.composite twoLines) Environment.root)
          (.error (.within layers (.inputOutput "sink full"))) limited ∧
        limited.sink.written = "hello\nwo".toUTF8 := by
  have prints :
      (bare.call 1 (.composite twoLines) Environment.root).toOption.map
          (fun ended => ended.2.sink.written) =
        some "hello\nworld\n".toUTF8 := by
    decide +kernel
  obtain ⟨outcome, after, ran, wrote⟩ := exists_of_observed prints
  obtain ⟨output, limitedOutcome, limited, written, finishes, _, whenCut⟩ :=
    call_withRoom 8 (show bare.sink.capacity = none from rfl) ⟨1, ran⟩
  have wroteNothing : bare.sink.written = .empty := rfl
  rw [wroteNothing, ByteArray.empty_append] at written whenCut
  obtain rfl : output = "hello\nworld\n".toUTF8 := written.symm.trans wrote
  have exceeds : 8 < "hello\nworld\n".toUTF8.size := by decide
  obtain ⟨cut, layers, _, _, _, rfl, _⟩ := whenCut exceeds
  have beginning :
      "hello\nworld\n".toUTF8.extract 0 8 = "hello\nwo".toUTF8 := by
    decide +kernel
  exact ⟨layers, limited, finishes, cut.trans beginning⟩

end Machine

end FunctionScript
