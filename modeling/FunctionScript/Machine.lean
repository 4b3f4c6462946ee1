import FunctionScript.Environment.Bindings
import FunctionScript.Numeral
import FunctionScript.Sink

namespace FunctionScript

/-!
# Machines

A machine is what evaluation works on: the environment, the output, and a log of
what happened. What the output is written to may be anything that takes bytes.
-/

/-- What is logged. -/
inductive Event where
  /-- A script file is about to be read. -/
  | running (path : String)
  /-- A declaration has no meaning and is left out. -/
  | ignoring (name : String) (kind : Json.Kind)
  /-- A script's tables are about to be laid over the root frame. -/
  | merging (functionCount variableCount : Nat)
  /-- A command's function is about to run; its frame is the newest of `depth` live ones. -/
  | dispatching (function : String) (depth : Nat) (builtin : Bool)
  /-- An argument is about to be bound in the newest frame. -/
  | binding (name value : String)
  deriving DecidableEq, Repr

/-- How much attention an event asks for. -/
inductive Event.Level where
  | trace
  | debug
  | warn
  deriving DecidableEq, Repr

namespace Event

def level :
    Event →
    Level
  | ignoring _ _ => .warn
  | binding _ _ => .trace
  | _ => .debug

def title :
    Event →
    String
  | running _ => "running script"
  | ignoring _ _ => "ignoring top-level declaration"
  | merging _ _ => "merging script into root frame"
  | dispatching _ _ _ => "dispatching command"
  | binding _ _ => "binding argument"

end Event

/-- The environment, the output and the log. -/
structure Machine (Output : Type := Sink) where
  environment : Environment
  sink : Output
  log : Array Event

namespace Machine

variable {Output : Type}

/-- A machine without bindings that writes to the sink. -/
def initial
    (sink : Output) :
    Machine Output where
  environment := .initial
  sink := sink
  log := #[]

/-- The machine with an event at the end of its log. -/
def record
    (machine : Machine Output)
    (event : Event) :
    Machine Output :=
  { machine with log := machine.log.push event }

/-- The machine with events at the end of its log. -/
def recordAll
    (machine : Machine Output)
    (events : List Event) :
    Machine Output :=
  { machine with log := machine.log ++ events }

/-- Pass on what the machine's output holds back. -/
def flush
    [Writer Output]
    (machine : Machine Output) :
    Outcome × Machine Output :=
  let (outcome, sink) := Writer.flush machine.sink
  (outcome, { machine with sink := sink })

end Machine

end FunctionScript
