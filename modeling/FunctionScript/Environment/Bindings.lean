import FunctionScript.Environment.Frames

namespace FunctionScript.Environment

/-!
# Bindings

A name is looked up in one frame, or along the chain of frames up to the root,
where the nearest frame that binds it counts. Assigning goes to the nearest frame
that binds the name, and to the root if none does, so it never hides a binding.
-/

/-- How far a name is looked up. -/
inductive Reach where
  /-- In the given frame only. -/
  | own
  /-- In the given frame and then in each of its ancestors. -/
  | chain
  deriving DecidableEq, Repr

/-- The frames in which a name is looked up, nearest first. -/
def Reach.frames
    (reach : Reach)
    (environment : Environment)
    (frame : Nat) :
    List Nat :=
  match reach with
  | .own => [frame]
  | .chain => environment.chain frame

/-- The variables bound in one frame. -/
def «variables»
    (environment : Environment)
    (frame : Nat) :
    Table String :=
  match environment.frames[frame]? with
  | some found => found.variables
  | none => ∅

def functions
    (environment : Environment)
    (frame : Nat) :
    Table Function :=
  match environment.frames[frame]? with
  | some found => found.functions
  | none => ∅

/-- The value of a variable. -/
def value?
    (environment : Environment)
    (reach : Reach)
    (frame : Nat)
    (name : String) :
    Option String :=
  (reach.frames environment frame).findSome? fun place =>
    (environment.variables place)[name]?

def function?
    (environment : Environment)
    (reach : Reach)
    (frame : Nat)
    (name : String) :
    Option Function :=
  (reach.frames environment frame).findSome? fun place =>
    (environment.functions place)[name]?

/-- The nearest frame on the chain that binds a variable. -/
def bindingFrame?
    (environment : Environment)
    (frame : Nat)
    (name : String) :
    Option Nat :=
  (environment.chain frame).find? fun place =>
    (environment.variables place).contains name

def defineVariable
    (environment : Environment)
    (frame : Nat)
    (name value : String) :
    Environment :=
  environment.modifyFrame frame fun found =>
    { found with «variables» := found.variables.insert name value }

/-- Bind a function in one frame, replacing its binding there. -/
def defineFunction
    (environment : Environment)
    (frame : Nat)
    (name : String)
    (function : Function) :
    Environment :=
  environment.modifyFrame frame fun found =>
    { found with functions := found.functions.insert name function }

def eraseVariable
    (environment : Environment)
    (frame : Nat)
    (name : String) :
    Environment :=
  environment.modifyFrame frame fun found =>
    { found with «variables» := found.variables.erase name }

/-- Where an assignment goes: the nearest frame that binds the name, or the last of the chain. -/
def assignmentFrame
    (environment : Environment)
    (frame : Nat)
    (name : String) :
    Nat :=
  (environment.bindingFrame? frame name).getD
    ((environment.chain frame).getLast?.getD frame)

/-- Assign a variable where it is bound, or bind it in the root. -/
def assign
    (environment : Environment)
    (frame : Nat)
    (name value : String) :
    Environment :=
  environment.defineVariable (environment.assignmentFrame frame name) name value

/-- Assign a variable where it is bound; nothing if no frame on the chain binds it. -/
def update?
    (environment : Environment)
    (frame : Nat)
    (name value : String) :
    Option Environment :=
  (environment.bindingFrame? frame name).map fun place =>
    environment.defineVariable place name value

/-- Remove the nearest binding of a variable; nothing if no frame on the chain binds it. -/
def delete?
    (environment : Environment)
    (frame : Nat)
    (name : String) :
    Option Environment :=
  (environment.bindingFrame? frame name).map fun place =>
    environment.eraseVariable place name

/-- Bind arguments one after another in one frame. -/
def bindAll
    (environment : Environment)
    (frame : Nat)
    (bindings : List (String × String)) :
    Environment :=
  bindings.foldl
    (fun environment binding =>
      environment.defineVariable frame binding.1 binding.2)
    environment

/-- Lay tables of functions and variables over the root's own. -/
def overlayRoot
    (environment : Environment)
    (functions : Table Function)
    (values : Table String) :
    Environment :=
  environment.modifyFrame root fun found =>
    { found with
      functions := found.functions ∪ functions
      «variables» := found.variables ∪ values }

/-- The value of a reference to a variable that is bound nowhere. -/
def undefinedText : String :=
  "undefined"

/-- The value of an argument as the caller sees it. -/
def resolve
    (environment : Environment)
    (caller : Nat) :
    Argument.Source →
    String
  | .literal text => text
  | .param name => (environment.value? .own caller name).getD undefinedText
  | .ref name => (environment.value? .chain caller name).getD undefinedText

def argumentValues
    (environment : Environment)
    (caller : Nat)
    (command : Command) :
    List (String × String) :=
  command.arguments.map fun argument =>
    (argument.name, environment.resolve caller argument.source)

end FunctionScript.Environment
