import FunctionScript.Machine

namespace FunctionScript

/-!
# What built-in functions do

A built-in function reads its attributes from its own frame, never from the
frames around it, and settles on one effect. Only then is the effect carried out,
so a function that lacks an attribute, or finds an operand that is no number,
changes nothing.
-/

/-- What a built-in function does once its attributes are at hand. -/
inductive Effect where
  /-- Assign a variable where it is bound, or bind it in the root. -/
  | assign (name value : String)
  /-- Assign a variable that is bound. -/
  | update (name value : String)
  /-- Remove the nearest binding of a variable. -/
  | delete (name : String)
  /-- Write a line. -/
  | write (line : String)
  deriving DecidableEq, Repr

namespace Builtin

/-- An attribute that has to be bound in the function's own frame. -/
def required
    (builtin : Builtin)
    (environment : Environment)
    (frame : Nat)
    (sought : Attribute) :
    Except Failure String :=
  match environment.value? .own frame sought.name with
  | some value => .ok value
  | none => .error (.missingArgument builtin sought)

def operand
    (builtin : Builtin)
    (role : Attribute)
    (value : String) :
    Except Failure Binary64 :=
  match Numeral.read? value with
  | some number => .ok number
  | none => .error (.numericConversion builtin role value)

/-- The line that a value is printed as: a number with four places, any other text as it is. -/
def printedLine
    (value : String) :
    String :=
  match Numeral.read? value with
  | some number => Numeral.printed number ++ "\n"
  | none => value ++ "\n"

/-- The effect that the attributes of a frame ask for. -/
def effect
    (builtin : Builtin)
    (environment : Environment)
    (frame : Nat) :
    Except Failure Effect :=
  let required := builtin.required environment frame
  match builtin with
  | .create => do
      let name ← required .id
      let value ← required .value
      return .assign name value
  | .update => do
      let name ← required .id
      let value ← required .value
      return .update name value
  | .delete => do
      let name ← required .id
      return .delete name
  | .print => do
      let value ← required .value
      return .write (printedLine value)
  | .arithmetic operation => do
      let name ← required .id
      let left ← required .operand1
      let right ← required .operand2
      let left ← builtin.operand .operand1 left
      let right ← builtin.operand .operand2 right
      return .assign name (Numeral.stored (operation.apply left right))

end Builtin

namespace Machine

variable {Output : Type}

/-- The machine in a changed environment, or unchanged after failing to find a variable. -/
def changed
    (machine : Machine Output)
    (builtin : Builtin)
    (name : String)
    (environment : Option Environment) :
    Outcome × Machine Output :=
  match environment with
  | some environment => (.ok (), { machine with environment := environment })
  | none => (.error (.undefinedVariable builtin name), machine)

/-- Carry out an effect in a frame on behalf of a built-in function. -/
def perform
    [Writer Output]
    (machine : Machine Output)
    (builtin : Builtin)
    (frame : Nat) :
    Effect →
    Outcome × Machine Output
  | .assign name value =>
      (.ok (), { machine with environment := machine.environment.assign frame name value })
  | .update name value =>
      machine.changed builtin name (machine.environment.update? frame name value)
  | .delete name =>
      machine.changed builtin name (machine.environment.delete? frame name)
  | .write line =>
      let (outcome, sink) := Writer.writeLine machine.sink line.toUTF8
      (outcome, { machine with sink := sink })

def execute
    [Writer Output]
    (machine : Machine Output)
    (builtin : Builtin)
    (frame : Nat) :
    Outcome × Machine Output :=
  match builtin.effect machine.environment frame with
  | .ok effect => machine.perform builtin frame effect
  | .error failure => (.error failure, machine)

end Machine

end FunctionScript
