import FunctionScript.Batch
import FunctionScript.Proofs.Evaluation
import FunctionScript.Proofs.Sinks

namespace FunctionScript

/-!
# Output through a buffer

Output is written and never read back. So if writes to two outputs end alike, runs on
machines that differ in these outputs only go through the same steps, and whatever
relation of the outputs every write keeps holds at their end. Such a relation stands
between a plain sink and one behind a buffer: what has arrived behind the buffer and what
is still held there make up what the plain sink was given. A flush brings it all there,
so that a batch that is printed through a buffer leaves what it would have printed at once.
-/

section Exchange

variable
  {Left Right : Type}

/-- Writes to related outputs end alike, and leave related outputs. -/
structure WritesAlike
    [Writer Left]
    [Writer Right]
    (agree : Left → Right → Prop) :
    Prop where
  outcome :
    ∀ {left right},
      agree left right →
        ∀ bytes, (Writer.write left bytes).1 = (Writer.write right bytes).1
  agrees :
    ∀ {left right},
      agree left right →
        ∀ bytes, agree (Writer.write left bytes).2 (Writer.write right bytes).2

namespace Machine

/-- Machines that differ in their outputs only, which are related. -/
structure DifferInOutput
    (agree : Left → Right → Prop)
    (left : Machine Left)
    (right : Machine Right) :
    Prop where
  environment : left.environment = right.environment
  sink : agree left.sink right.sink
  log : left.log = right.log

/-- Runs that stop for the same reason, or end alike on machines that differ in their outputs. -/
inductive RunAlike
    (agree : Left → Right → Prop) :
    Run Left →
    Run Right →
    Prop where
  | stopped
      (stop : Stop) :
      RunAlike agree (.error stop) (.error stop)
  | ended
      (outcome : Outcome)
      {left : Machine Left}
      {right : Machine Right}
      (differ : DifferInOutput agree left right) :
      RunAlike agree (.ok (outcome, left)) (.ok (outcome, right))

variable
  {agree : Left → Right → Prop}
  {left : Machine Left}
  {right : Machine Right}

theorem DifferInOutput.record
    (differ : DifferInOutput agree left right)
    (event : Event) :
    DifferInOutput agree (left.record event) (right.record event) where
  environment := differ.environment
  sink := differ.sink
  log := congrArg (Array.push · event) differ.log

theorem DifferInOutput.recordAll
    (differ : DifferInOutput agree left right)
    (events : List Event) :
    DifferInOutput agree (left.recordAll events) (right.recordAll events) where
  environment := differ.environment
  sink := differ.sink
  log := congrArg (fun log : Array Event => log ++ events) differ.log

/-- The same change of the environments leaves a difference in the outputs only. -/
theorem DifferInOutput.change
    (differ : DifferInOutput agree left right)
    (change : Environment → Environment) :
    DifferInOutput agree
      { left with environment := change left.environment }
      { right with environment := change right.environment } where
  environment := congrArg change differ.environment
  sink := differ.sink
  log := differ.log

theorem DifferInOutput.enter
    (differ : DifferInOutput agree left right)
    (caller : Nat)
    (command : Command)
    (function : Function) :
    DifferInOutput agree
      (left.enter caller command function) (right.enter caller command function) := by
  obtain ⟨environment, sink, log⟩ := left
  obtain ⟨otherEnvironment, otherSink, otherLog⟩ := right
  obtain ⟨rfl, agrees, rfl⟩ := differ
  exact ⟨rfl, agrees, rfl⟩

/-- Runs that end alike do so with the same change of what they come to. -/
theorem RunAlike.map
    {run : Run Left}
    {other : Run Right}
    (alike : RunAlike agree run other)
    (onOutcome : Outcome → Outcome)
    {onLeft : Machine Left → Machine Left}
    {onRight : Machine Right → Machine Right}
    (keeps :
      ∀ {left right},
        DifferInOutput agree left right → DifferInOutput agree (onLeft left) (onRight right)) :
    RunAlike agree
      (run.map fun (outcome, machine) => (onOutcome outcome, onLeft machine))
      (other.map fun (outcome, machine) => (onOutcome outcome, onRight machine)) := by
  cases alike with
  | stopped stop => exact .stopped stop
  | ended outcome differ => exact .ended (onOutcome outcome) (keeps differ)

/-- Steps that end alike do so in a list. -/
theorem RunAlike.inOrder
    {step : α → Machine Left → Run Left}
    {other : α → Machine Right → Run Right}
    (stepAlike :
      ∀ item {left right},
        DifferInOutput agree left right → RunAlike agree (step item left) (other item right))
    (items : List α)
    (differ : DifferInOutput agree left right) :
    RunAlike agree (inOrder step items left) (inOrder other items right) := by
  induction items generalizing left right with
  | nil => exact .ended (.ok ()) differ
  | cons first rest inductionHypothesis =>
      have firstAlike := stepAlike first differ
      rw [Machine.inOrder, Machine.inOrder]
      generalize step first left = run at firstAlike ⊢
      generalize other first right = otherRun at firstAlike ⊢
      cases firstAlike with
      | stopped stop => exact .stopped stop
      | ended outcome differ =>
          cases outcome with
          | error failure => exact .ended (.error failure) differ
          | ok done => exact inductionHypothesis differ

/-- Runs of functions that end alike do so for the function of a command. -/
theorem RunAlike.dispatch
    {call : Function → Nat → Machine Left → Run Left}
    {other : Function → Nat → Machine Right → Run Right}
    (callAlike :
      ∀ function frame {left right},
        DifferInOutput agree left right →
          RunAlike agree (call function frame left) (other function frame right))
    (caller : Nat)
    (command : Command)
    (differ : DifferInOutput agree left right) :
    RunAlike agree (dispatch call caller command left) (dispatch other caller command right) := by
  simp only [Machine.dispatch, ← differ.environment]
  split
  case isFalse => exact .stopped (.deadFrame caller)
  case isTrue =>
    cases left.environment.function? .chain caller command.target with
    | none => exact .ended (.error (.undefinedFunction command.target)) differ
    | some function =>
        have called :=
          callAlike function left.environment.depth (differ.enter caller command function)
        exact called.map id fun differ =>
          differ.change (Environment.pop · left.environment.depth)

section Steps

variable
  [Writer Left]
  [Writer Right]
  (alike : WritesAlike agree)

include alike

/-- Lines that are written to related outputs end alike, too. -/
theorem writeLine_alike
    {output : Left}
    {other : Right}
    (agrees : agree output other)
    (line : ByteArray) :
    (Writer.writeLine output line).1 = (Writer.writeLine other line).1 ∧
      agree (Writer.writeLine output line).2 (Writer.writeLine other line).2 := by
  have sameOutcome := alike.outcome agrees (line.extract 0 (line.size - 1))
  have agreesBehind := alike.agrees agrees (line.extract 0 (line.size - 1))
  simp only [Writer.writeLine]
  generalize Writer.write output _ = written at sameOutcome agreesBehind ⊢
  generalize Writer.write other _ = otherWritten at sameOutcome agreesBehind ⊢
  obtain ⟨outcome, after⟩ := written
  obtain ⟨_, otherAfter⟩ := otherWritten
  obtain rfl := sameOutcome
  cases outcome with
  | error failure => exact ⟨rfl, agreesBehind⟩
  | ok done => exact ⟨alike.outcome agreesBehind _, alike.agrees agreesBehind _⟩

/-- An effect is carried out alike, since only the environment decides on it. -/
theorem perform_alike
    (differ : DifferInOutput agree left right)
    (builtin : Builtin)
    (frame : Nat)
    (effect : Effect) :
    (left.perform builtin frame effect).1 = (right.perform builtin frame effect).1 ∧
      DifferInOutput agree
        (left.perform builtin frame effect).2 (right.perform builtin frame effect).2 := by
  cases effect with
  | assign name value => exact ⟨rfl, differ.change (Environment.assign · frame name value)⟩
  | update name value =>
      simp only [perform, changed, ← differ.environment]
      cases left.environment.update? frame name value with
      | none => exact ⟨rfl, differ⟩
      | some after => exact ⟨rfl, differ.change fun _ => after⟩
  | delete name =>
      simp only [perform, changed, ← differ.environment]
      cases left.environment.delete? frame name with
      | none => exact ⟨rfl, differ⟩
      | some after => exact ⟨rfl, differ.change fun _ => after⟩
  | write line =>
      obtain ⟨sameOutcome, agrees⟩ := writeLine_alike alike differ.sink line.toUTF8
      exact ⟨sameOutcome, differ.environment, agrees, differ.log⟩

theorem execute_alike
    (differ : DifferInOutput agree left right)
    (builtin : Builtin)
    (frame : Nat) :
    (left.execute builtin frame).1 = (right.execute builtin frame).1 ∧
      DifferInOutput agree (left.execute builtin frame).2 (right.execute builtin frame).2 := by
  simp only [execute, ← differ.environment]
  cases builtin.effect left.environment frame with
  | error failure => exact ⟨rfl, differ⟩
  | ok effect => exact perform_alike alike differ builtin frame effect

theorem callBuiltin_alike
    (differ : DifferInOutput agree left right)
    (builtin : Builtin)
    (frame : Nat) :
    RunAlike agree (left.callBuiltin builtin frame) (right.callBuiltin builtin frame) := by
  simp only [callBuiltin, ← differ.environment]
  split
  case isFalse => exact .stopped (.deadFrame frame)
  case isTrue =>
    obtain ⟨sameOutcome, differAfter⟩ := execute_alike alike differ builtin frame
    rw [← Prod.eta (left.execute builtin frame), ← Prod.eta (right.execute builtin frame),
      sameOutcome]
    exact .ended _ differAfter

/-- A function runs alike on machines that differ in their outputs only. -/
theorem call_alike
    (fuel : Nat)
    (function : Function)
    (frame : Nat)
    (differ : DifferInOutput agree left right) :
    RunAlike agree (left.call fuel function frame) (right.call fuel function frame) := by
  induction fuel, function using call_induction generalizing frame left right with
  | builtin fuel builtin =>
      simp only [call]
      exact callBuiltin_alike alike differ builtin frame
  | withoutFuel body => exact .stopped .outOfFuel
  | composite fuel body inductionHypothesis =>
      have commandsAlike :=
        RunAlike.inOrder
          (fun command _ _ differ =>
            RunAlike.dispatch
              (fun callee frame _ _ differ => inductionHypothesis callee frame differ)
              frame command differ)
          body.commands differ
      exact commandsAlike.map (Except.mapError (.inFunction body.name)) id

theorem runScript_alike
    (fuel : Nat)
    (script : Script)
    (differ : DifferInOutput agree left right) :
    RunAlike agree (left.runScript fuel script) (right.runScript fuel script) := by
  have merged : DifferInOutput agree (left.merge script) (right.merge script) :=
    (differ.record _).change fun environment =>
      environment.overlayRoot script.functions script.variables
  simp only [runScript, ← merged.environment]
  cases (left.merge script).environment.function? .own Environment.root initName with
  | none => exact .ended (.error .missingInit) merged
  | some function => exact call_alike alike fuel function Environment.root merged

theorem runSource_alike
    (fuel : Nat)
    (source : ByteArray)
    (differ : DifferInOutput agree left right) :
    RunAlike agree (left.runSource fuel source) (right.runSource fuel source) := by
  simp only [runSource, runDocument]
  cases Script.readDocument source with
  | error failure => exact .ended (.error failure) differ
  | ok document =>
      have logged := differ.recordAll (Script.eventsOfDeclarations document)
      simp only
      cases Script.ofDeclarations document with
      | error failure => exact .ended (.error failure) logged
      | ok script => exact runScript_alike alike fuel script logged

theorem runFile_alike
    (fuel : Nat)
    (files : FileStore)
    (path : OsText)
    (differ : DifferInOutput agree left right) :
    RunAlike agree (left.runFile fuel files path) (right.runFile fuel files path) := by
  have logged := differ.record (.running path.display)
  simp only [runFile]
  refine RunAlike.map ?_ (Except.mapError (.inScript path.display)) id
  cases files path with
  | error reason => exact .ended (.error (.inputOutput reason)) logged
  | ok source => exact runSource_alike alike fuel source logged

/-- A batch runs alike on machines that differ in their outputs only. -/
theorem runFiles_alike
    (fuel : Nat)
    (files : FileStore)
    (paths : List OsText)
    (differ : DifferInOutput agree left right) :
    RunAlike agree (left.runFiles fuel files paths) (right.runFiles fuel files paths) :=
  RunAlike.inOrder (fun path _ _ differ => runFile_alike alike fuel files path differ) paths differ

end Steps

end Machine

end Exchange

section Buffer

variable
  {output : BufferedSink}
  {sink : Sink}

/--
A buffer stands for a plain sink: the bytes that have arrived behind the buffer, and then
those that it holds, are the ones of the plain sink. Neither sink has a limit.
-/
structure BufferedSink.StandsFor
    (output : BufferedSink)
    (sink : Sink) :
    Prop where
  deviceUnlimited : output.device.capacity = none
  unlimited : sink.capacity = none
  hasRoom : 0 < output.room
  content : output.device.written ++ output.held = sink.written

namespace BufferedSink.StandsFor

/-- Draining a buffer brings what it holds behind it, and nothing stays. -/
theorem drain
    (standsFor : output.StandsFor sink) :
    output.drain =
      (.ok (),
        { output with
          device := { output.device with written := sink.written }
          held := .empty }) := by
  have accepted : output.device.accepted output.held = output.held.size := by
    rw [Sink.accepted, standsFor.deviceUnlimited]
  rw [BufferedSink.drain, Sink.write_unlimited standsFor.deviceUnlimited, standsFor.content,
    accepted]
  simp

/-- What a buffer takes, it holds or passes on. -/
theorem take
    (standsFor : output.StandsFor sink)
    (bytes : ByteArray)
    (inTurn : output.room ≤ bytes.size → output.held = .empty) :
    (output.take bytes).1 = .ok () ∧
      (output.take bytes).2.StandsFor { sink with written := sink.written ++ bytes } := by
  rw [BufferedSink.take]
  split
  case isTrue passedOn =>
    have nothingHeld := inTurn passedOn
    have content := standsFor.content
    rw [nothingHeld, ByteArray.append_empty] at content
    rw [Sink.write_unlimited standsFor.deviceUnlimited]
    refine ⟨rfl, standsFor.deviceUnlimited, standsFor.unlimited, standsFor.hasRoom, ?_⟩
    simp only [nothingHeld, ByteArray.append_empty, content]
  case isFalse =>
    refine ⟨rfl, standsFor.deviceUnlimited, standsFor.unlimited, standsFor.hasRoom, ?_⟩
    simp only [← standsFor.content, ByteArray.append_assoc]

/-- A drained buffer stands for the same sink. -/
theorem drained
    (standsFor : output.StandsFor sink) :
    output.drain.1 = .ok () ∧ output.drain.2.StandsFor sink ∧ output.drain.2.held = .empty := by
  rw [standsFor.drain]
  refine ⟨rfl, ?_, rfl⟩
  exact
    { deviceUnlimited := standsFor.deviceUnlimited
      unlimited := standsFor.unlimited
      hasRoom := standsFor.hasRoom
      content := ByteArray.append_empty }

theorem write
    (standsFor : output.StandsFor sink)
    (bytes : ByteArray) :
    (output.write bytes).1 = .ok () ∧
      (output.write bytes).2.StandsFor { sink with written := sink.written ++ bytes } := by
  rw [BufferedSink.write]
  split
  case isTrue =>
    obtain ⟨completed, standsForDrained, nothingHeld⟩ := standsFor.drained
    generalize output.drain = drained at completed standsForDrained nothingHeld
    obtain ⟨_, output⟩ := drained
    obtain rfl := completed
    exact standsForDrained.take bytes fun _ => nothingHeld
  case isFalse enoughRoom =>
    refine standsFor.take bytes fun passedOn => ?_
    -- As many bytes as there is room for fit behind what is held only if that is nothing.
    have hasRoom := standsFor.hasRoom
    rw [← ByteArray.size_eq_zero_iff]
    omega

/-- A flush brings to the sink behind the buffer what the plain sink has. -/
theorem flush
    (standsFor : output.StandsFor sink) :
    output.flush.1 = .ok () ∧ output.flush.2.device.written = sink.written := by
  rw [BufferedSink.flush, standsFor.drain]
  exact ⟨rfl, rfl⟩

/-- Writes through a buffer end as writes to the plain sink do. -/
theorem writesAlike :
    WritesAlike BufferedSink.StandsFor where
  outcome := by
    intro output sink standsFor bytes
    rw [Sink.writer_write, Sink.write_unlimited standsFor.unlimited]
    exact (standsFor.write bytes).1
  agrees := by
    intro output sink standsFor bytes
    rw [Sink.writer_write, Sink.write_unlimited standsFor.unlimited]
    exact (standsFor.write bytes).2

theorem onto
    {device : Sink}
    (unlimited : device.capacity = none) :
    (BufferedSink.onto device).StandsFor device where
  deviceUnlimited := unlimited
  unlimited := unlimited
  hasRoom := Nat.succ_pos _
  content := ByteArray.append_empty

end BufferedSink.StandsFor

end Buffer

namespace Machine

/--
A batch that prints through a buffer ends as it does when it prints at once, and leaves
the same output behind the buffer, whether it fails or not.
-/
theorem runBuffered_eq
    (fuel : Nat)
    (files : FileStore)
    (paths : List OsText)
    (standardOutput : Sink)
    (unlimited : standardOutput.capacity = none) :
    (∀ stop,
      (initial standardOutput).runFiles fuel files paths = .error stop →
        runBuffered fuel files paths standardOutput = .error stop) ∧
      ∀ outcome machine,
        (initial standardOutput).runFiles fuel files paths = .ok (outcome, machine) →
          ∃ after,
            runBuffered fuel files paths standardOutput = .ok (outcome, after) ∧
              after.environment = machine.environment ∧
              after.log = machine.log ∧
              after.sink.device.written = machine.sink.written := by
  have differ :
      DifferInOutput BufferedSink.StandsFor (initial (.onto standardOutput))
        (initial standardOutput) :=
    ⟨rfl, .onto unlimited, rfl⟩
  have alike := runFiles_alike BufferedSink.StandsFor.writesAlike fuel files paths differ
  rw [runBuffered]
  generalize (initial (BufferedSink.onto standardOutput)).runFiles fuel files paths = buffered
    at alike ⊢
  generalize (initial standardOutput).runFiles fuel files paths = plain at alike
  cases alike with
  | stopped stop =>
      refine ⟨fun _ stopped => ?_, fun _ _ ran => ?_⟩
      · cases stopped
        rfl
      · cases ran
  | @ended outcome bufferedAfter plainAfter differ =>
      obtain ⟨flushed, arrived⟩ := differ.sink.flush
      have sameOutcome : outcome.both bufferedAfter.flush.1 = outcome := by
        have flushes : bufferedAfter.flush.1 = .ok () := flushed
        rw [flushes]
        cases outcome <;> rfl
      refine ⟨fun _ stopped => ?_, fun _ _ ran => ?_⟩
      · cases stopped
      · cases ran
        exact
          ⟨bufferedAfter.flush.2, congrArg (fun outcome => Except.ok (outcome, _)) sameOutcome,
            differ.environment, differ.log, arrived⟩

end Machine

end FunctionScript
