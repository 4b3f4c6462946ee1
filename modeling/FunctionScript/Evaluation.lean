import FunctionScript.Effect

namespace FunctionScript

/-!
# Evaluation

A function runs in a frame. A built-in function carries out its effect; a
composite function dispatches its commands one after another and stops at the
first failure, which it annotates with its own name. To dispatch a command, its
function is looked up along the caller's chain and its arguments are resolved as
the caller sees them; they are bound in a fresh frame, the function runs there,
and the frame is dropped, whether the function failed or not.

Functions may call each other without end, so evaluation is given the number of
composite functions that may be active at once. An evaluation that would need more
comes to no result at all. Nor does one that is asked to use a frame that is not
live, which evaluation itself never does.
-/

/-- Why an evaluation came to no result. -/
inductive Stop where
  /-- More composite functions would have to be active at once than were allowed. -/
  | outOfFuel
  /-- No live frame stands at the place that was to be used. -/
  | deadFrame (frame : Nat)
  deriving DecidableEq, Repr

/-- What an evaluation comes to: how it ended, and the machine it left behind. -/
abbrev Run (Output : Type := Sink) : Type :=
  Except Stop (Outcome × Machine Output)

variable {Output : Type}

namespace Run

/-- The run with its failure, if any, put into a layer. -/
def annotate
    (layer : Failure → Failure)
    (run : Run Output) :
    Run Output :=
  run.map fun (outcome, machine) => (outcome.mapError layer, machine)

end Run

namespace Machine

/-- Take the steps in order, up to the first that fails. -/
def inOrder
    (step : α → Machine Output → Run Output) :
    List α →
    Machine Output →
    Run Output
  | [], machine => .ok (.ok (), machine)
  | first :: rest, machine =>
      match step first machine with
      | .error stop => .error stop
      | .ok (.error failure, after) => .ok (.error failure, after)
      | .ok (.ok (), after) => inOrder step rest after

/-- The machine with a fresh frame for a command's function, in which the arguments are bound. -/
def enter
    (machine : Machine Output)
    (caller : Nat)
    (command : Command)
    (function : Function) :
    Machine Output :=
  let values := machine.environment.argumentValues caller command
  let frame := machine.environment.depth
  let pushed := machine.environment.push caller
  let dispatched :=
    machine.record (.dispatching command.target pushed.depth function.isBuiltin)
  let bound :=
    dispatched.recordAll (values.map fun (name, value) => .binding name value)
  { bound with environment := pushed.bindAll frame values }

/-- The machine without a frame and the frames behind it. -/
def leave
    (machine : Machine Output)
    (frame : Nat) :
    Machine Output :=
  { machine with environment := machine.environment.pop frame }

/-- Dispatch a command from a caller's frame, running its function as `call` does. -/
def dispatch
    (call : Function → Nat → Machine Output → Run Output)
    (caller : Nat)
    (command : Command)
    (machine : Machine Output) :
    Run Output :=
  if machine.environment.isLive caller then
    match machine.environment.function? .chain caller command.target with
    | none => .ok (.error (.undefinedFunction command.target), machine)
    | some function =>
        let frame := machine.environment.depth
        (call function frame (machine.enter caller command function)).map
          fun (outcome, after) => (outcome, after.leave frame)
  else
    .error (.deadFrame caller)

def callBuiltin
    [Writer Output]
    (builtin : Builtin)
    (frame : Nat)
    (machine : Machine Output) :
    Run Output :=
  if machine.environment.isLive frame then
    .ok (machine.execute builtin frame)
  else
    .error (.deadFrame frame)

/-- Run a function in a frame, with at most `fuel` composite functions active at once. -/
def call
    [Writer Output]
    (fuel : Nat)
    (function : Function)
    (frame : Nat)
    (machine : Machine Output) :
    Run Output :=
  match fuel, function with
  | _, .builtin builtin => machine.callBuiltin builtin frame
  | 0, .composite _ => .error .outOfFuel
  | fuel + 1, .composite body =>
      (inOrder (dispatch (call fuel) frame) body.commands machine).annotate
        (.inFunction body.name)

def runCommand
    [Writer Output]
    (fuel : Nat)
    (caller : Nat)
    (command : Command)
    (machine : Machine Output) :
    Run Output :=
  dispatch (call fuel) caller command machine

end Machine

end FunctionScript
