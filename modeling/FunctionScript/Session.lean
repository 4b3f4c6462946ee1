import FunctionScript.Script

namespace FunctionScript

/-!
# Sessions

A session drives one machine step by step. Frames that it pushes are named by
handles, which are numbered in the order of the pushes; the root has handle zero.
A handle stands for a place among the frames. Once its frame is dropped, a later
push may take the same place, and then the handle stands for the new frame.

A step that needs a frame where none is live changes nothing and says so.
-/

/-- What a step asks for. -/
inductive Session.Request where
  /-- Read a script and run it. -/
  | script (source : ByteArray)
  /-- Run a command. -/
  | command (command : Command)
  /-- Run the function of a name in the frame itself. -/
  | call (name : String) (reach : Environment.Reach)
  /-- Run a built-in function in the frame itself. -/
  | builtin (builtin : Builtin)
  /-- Run a built-in function with an output of its own. -/
  | execute (builtin : Builtin)
  /-- Flush the output. -/
  | flush
  /-- Make a frame whose parent is the given one. -/
  | push
  /-- Drop a frame and those behind it. -/
  | pop
  /-- Count the live frames. -/
  | depth
  /-- Name a frame's parent. -/
  | parent
  /-- List a frame's variables. -/
  | «variables»
  /-- Look a variable up. -/
  | get (name : String) (reach : Environment.Reach)
  /-- Bind a variable in the frame itself. -/
  | define (name value : String)
  /-- Assign a variable. -/
  | set (name value : String)
  /-- Assign a variable that is bound. -/
  | update (name value : String)
  /-- Remove a variable. -/
  | delete (name : String)
  /-- Resolve an argument. -/
  | resolve (source : Argument.Source)
  /-- Look a function up. -/
  | getFunction (name : String) (reach : Environment.Reach)
  /-- Bind a function in the frame itself. -/
  | defineFunction (name : String) (function : Function)

/-- What a step answers. -/
inductive Session.Reply where
  | done
  | outcome (outcome : Outcome)
  | executed (outcome : Outcome) (printed : ByteArray)
  | pushed (handle place : Nat)
  | count (count : Nat)
  | place (place : Option Nat)
  | «variables» (table : Table String)
  | text (text : Option String)
  | flag (flag : Bool)
  | function (function : Option Function)
  /-- No live frame stands where one was needed. -/
  | deadFrame
  /-- The evaluation came to no result with the fuel it was given. -/
  | outOfFuel

/-- A machine and the places that its handles stand for. -/
structure Session where
  machine : Machine
  places : Array Nat

namespace Session

def initial
    (sink : Sink) :
    Session where
  machine := .initial sink
  places := #[Environment.root]

/-- The place that a handle stands for; for a handle never given out, one that is not live. -/
def place
    (session : Session)
    (handle : Nat) :
    Nat :=
  session.places[handle]?.getD session.machine.environment.depth

/-- Whether a step reads or writes the frame it is given, so that it has to be live. -/
def Request.needsFrame :
    Request →
    Bool
  | script _ => false
  | flush => false
  | pop => false
  | depth => false
  | resolve (.literal _) => false
  | _ => true

def withEnvironment
    (session : Session)
    (environment : Environment) :
    Session :=
  { session with machine := { session.machine with environment := environment } }

/-- The reply to a run, and the session after it. -/
def afterRun
    (session : Session) :
    Run →
    Reply × Session
  | .ok (outcome, machine) => (.outcome outcome, { session with machine := machine })
  | .error .outOfFuel => (.outOfFuel, session)
  | .error (.deadFrame _) => (.deadFrame, session)

/-- The reply to a change that may not apply, and the session after it. -/
def afterChange
    (session : Session) :
    Option Environment →
    Reply × Session
  | some environment => (.flag true, session.withEnvironment environment)
  | none => (.flag false, session)

/-- Run a built-in function with an output of its own, which is given back. -/
def executeApart
    (session : Session)
    (builtin : Builtin)
    (place : Nat) :
    Reply × Session :=
  let apart := { session.machine with sink := Sink.unlimited }
  let (outcome, after) := apart.execute builtin place
  (.executed outcome after.sink.written,
    { session with machine := { after with sink := session.machine.sink } })

/-- Flush the output; in a session, a sink that is full refuses even this. -/
def flushOutput
    (session : Session) :
    Outcome × Session :=
  if session.machine.sink.isFull then
    (.error (.inputOutput session.machine.sink.fullReason), session)
  else
    let (outcome, machine) := session.machine.flush
    (outcome, { session with machine := machine })

/-- Do what a step asks for in the frame at a place. -/
def perform
    (fuel : Nat)
    (session : Session)
    (place : Nat) :
    Request →
    Reply × Session
  | .script source => session.afterRun (session.machine.runSource fuel source)
  | .command command =>
      session.afterRun (session.machine.runCommand fuel place command)
  | .call name reach =>
      match session.machine.environment.function? reach place name with
      | some function => session.afterRun (session.machine.call fuel function place)
      | none => (.function none, session)
  | .builtin builtin => session.afterRun (session.machine.callBuiltin builtin place)
  | .execute builtin => session.executeApart builtin place
  | .flush =>
      let (outcome, after) := session.flushOutput
      (.outcome outcome, after)
  | .push =>
      let environment := session.machine.environment
      (.pushed session.places.size environment.depth,
        { session.withEnvironment (environment.push place) with
          places := session.places.push environment.depth })
  | .pop => (.done, session.withEnvironment (session.machine.environment.pop place))
  | .depth => (.count session.machine.environment.depth, session)
  | .parent => (.place (session.machine.environment.parent? place), session)
  | .variables => (.variables (session.machine.environment.variables place), session)
  | .get name reach =>
      (.text (session.machine.environment.value? reach place name), session)
  | .define name value =>
      (.done, session.withEnvironment
        (session.machine.environment.defineVariable place name value))
  | .set name value =>
      (.done, session.withEnvironment
        (session.machine.environment.assign place name value))
  | .update name value =>
      session.afterChange (session.machine.environment.update? place name value)
  | .delete name =>
      session.afterChange (session.machine.environment.delete? place name)
  | .resolve source =>
      (.text (some (session.machine.environment.resolve place source)), session)
  | .getFunction name reach =>
      (.function (session.machine.environment.function? reach place name), session)
  | .defineFunction name function =>
      (.done, session.withEnvironment
        (session.machine.environment.defineFunction place name function))

/-- Do what a step asks for in the frame of a handle, if that is live or need not be. -/
def step
    (fuel : Nat)
    (session : Session)
    (handle : Nat)
    (request : Request) :
    Reply × Session :=
  let place := session.place handle
  if request.needsFrame && !session.machine.environment.isLive place then
    (.deadFrame, session)
  else
    session.perform fuel place request

end Session

end FunctionScript
