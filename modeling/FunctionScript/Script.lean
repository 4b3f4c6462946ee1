import FunctionScript.Evaluation
import FunctionScript.Json.Reader

namespace FunctionScript

/-!
# Scripts

A script is a document whose members declare functions and variables: an array is
the body of a function, a number or a numeric string is a variable, and any other
value is left out. Declarations are taken in ascending order of their names, and
the first one in error is the script's failure. A script has to declare the
function `init`, and knows every built-in function it does not redefine.
-/

/-- The function with which a script begins. -/
def initName : String :=
  "init"

/-- The member of a command that names its function. -/
def targetKey : String :=
  "cmd"

/-- The text of a scalar: strings as they are, numbers with their shortest digits. -/
def Json.scalarText? :
    Json →
    Option String
  | .string text => some text
  | .number found => some (Numeral.shortest found.toBinary64)
  | .boolean value => some (if value then "true" else "false")
  | .null => none
  | .array _ => none
  | .object _ => none

/-- The argument that a member of a command declares. -/
def Argument.ofMember
    (target : String)
    (member : String × Json) :
    Except Failure Argument :=
  match member.2.scalarText? with
  | some text => .ok (Argument.ofText member.1 text)
  | none => .error (.invalidArgument target member.1 member.2.kind)

/-- The command that the members of an object declare. -/
def Command.ofMembers
    (function : String)
    (members : List (String × Json)) :
    Except Failure Command :=
  match members.lookup targetKey with
  | some (.string target) => do
      let others := members.filter fun member => member.1 != targetKey
      let arguments ← others.mapM (Argument.ofMember target)
      return Command.ofTarget target arguments
  | some other => .error (.invalidCommand function (.targetNotText other.kind))
  | none => .error (.invalidCommand function .targetMissing)

/-- The command that an entry of a function's body declares. -/
def Command.ofEntry
    (function : String) :
    Json →
    Except Failure Command
  | .object members => Command.ofMembers function members
  | entry => .error (.invalidCommand function (.notAnObject entry))

/-- What a member of a script declares. -/
inductive Declaration where
  | function (body : Composite)
  | value (text : String)
  | ignored (kind : Json.Kind)
  deriving DecidableEq, Repr

/-- What a member of a script declares, or why it is in error. -/
def Declaration.ofJson
    (name : String) :
    Json →
    Except Failure Declaration
  | .array entries => do
      let commands ← entries.mapM (Command.ofEntry name)
      return .function ⟨name, commands⟩
  | .number found => .ok (.value (Numeral.shortest found.toBinary64))
  | .string text =>
      if (Numeral.read? text).isSome then
        .ok (.value text)
      else
        .error (.notANumber name text)
  | other => .ok (.ignored other.kind)

/-- Functions and variables by name. -/
structure Script where
  functions : Table Function
  «variables» : Table String

namespace Script

def empty : Script where
  functions := Function.builtins
  «variables» := ∅

/-- A script with one more declaration. -/
def declare
    (script : Script)
    (name : String) :
    Declaration →
    Script
  | .function body =>
      { script with functions := script.functions.insert name (.composite body) }
  | .value text =>
      { script with «variables» := script.variables.insert name text }
  | .ignored _ => script

/-- A member of a script with what it declares. -/
def readDeclaration
    (member : String × Json) :
    Except Failure (String × Declaration) :=
  (Declaration.ofJson member.1 member.2).map fun declaration =>
    (member.1, declaration)

/-- The script of the declarations of a document. -/
def ofDeclarations
    (document : Table Json) :
    Except Failure Script := do
  let declared ← document.toList.mapM readDeclaration
  let script :=
    declared.foldl (fun script entry => script.declare entry.1 entry.2) empty
  if script.functions.contains initName then
    return script
  else
    throw .missingInit

/-- The declarations of a document, the last one of each name. -/
def readDocument
    (source : ByteArray) :
    Except Failure (Table Json) :=
  match Json.membersOfDocument source with
  | .ok members => .ok (Json.declarations members)
  | .error error => .error (.malformed error)

def ofSource
    (source : ByteArray) :
    Except Failure Script :=
  (readDocument source).bind ofDeclarations

/-- What is logged for a declaration: that it is left out. -/
def ignoredEvent? :
    String × Json →
    Option Event
  | (name, value) =>
      match Declaration.ofJson name value with
      | .ok (.ignored kind) => some (.ignoring name kind)
      | _ => none

/-- Whether a member is not in error. -/
def isSound
    (member : String × Json) :
    Bool :=
  (readDeclaration member).toBool

/-- What is logged while a document's declarations are read, up to the first in error. -/
def eventsOfDeclarations
    (document : Table Json) :
    List Event :=
  (document.toList.takeWhile isSound).filterMap ignoredEvent?

/-- What is logged while a script is read. -/
def eventsOfSource
    (source : ByteArray) :
    List Event :=
  match readDocument source with
  | .ok document => eventsOfDeclarations document
  | .error _ => []

end Script

namespace Machine

variable {Output : Type}

/-- The machine with a script's tables laid over the root frame. -/
def merge
    (script : Script)
    (machine : Machine Output) :
    Machine Output :=
  let logged :=
    machine.record (.merging script.functions.size script.variables.size)
  { logged with
    environment :=
      machine.environment.overlayRoot script.functions script.variables }

/-- Lay a script over the root frame and run its `init` there. -/
def runScript
    [Writer Output]
    (fuel : Nat)
    (script : Script)
    (machine : Machine Output) :
    Run Output :=
  let merged := machine.merge script
  match merged.environment.function? .own Environment.root initName with
  | some function => merged.call fuel function Environment.root
  | none => .ok (.error .missingInit, merged)

/-- Run the script of a document's declarations. -/
def runDocument
    [Writer Output]
    (fuel : Nat)
    (document : Table Json)
    (machine : Machine Output) :
    Run Output :=
  let logged := machine.recordAll (Script.eventsOfDeclarations document)
  match Script.ofDeclarations document with
  | .ok script => logged.runScript fuel script
  | .error failure => .ok (.error failure, logged)

def runSource
    [Writer Output]
    (fuel : Nat)
    (source : ByteArray)
    (machine : Machine Output) :
    Run Output :=
  match Script.readDocument source with
  | .ok document => machine.runDocument fuel document
  | .error failure => .ok (.error failure, machine)

end Machine

end FunctionScript
