import FunctionScript.ErrorChain
import FunctionScript.Function
import FunctionScript.Json.Fault

namespace FunctionScript

/-!
# Failures

A failure is a cause with the layers it crossed: the functions that were running
and the script they belong to. A layer never changes the kind of the failure. The
full message has all layers, outermost first, on one line.
-/

/-- Why an entry of a function's body is not a command. -/
inductive InvalidCommand where
  | notAnObject (entry : Json)
  | targetNotText (kind : Json.Kind)
  | targetMissing
  deriving Repr

def InvalidCommand.message :
    InvalidCommand →
    String
  | notAnObject entry => "invalid command: " ++ entry.compactText
  | targetNotText kind => "'cmd' attribute must be a string, got " ++ kind.name
  | targetMissing => "'cmd' attribute is missing"

/-- What went wrong, and in which function and script. -/
inductive Failure where
  /-- Reading a file or writing output failed. -/
  | inputOutput (reason : String)
  /-- A script is not a document, or not an object. -/
  | malformed (error : Json.SyntaxError)
  /-- A script does not declare where to begin. -/
  | missingInit
  /-- An entry of a function's body is not a command. -/
  | invalidCommand (function : String) (cause : InvalidCommand)
  /-- An argument of a command has no text form. -/
  | invalidArgument (command argument : String) (kind : Json.Kind)
  /-- A declared variable is not a number. -/
  | notANumber (name value : String)
  /-- A command calls a function that no frame of the caller's chain binds. -/
  | undefinedFunction (name : String)
  /-- A built-in function lacks an attribute. -/
  | missingArgument (builtin : Builtin) (missing : Attribute)
  /-- An operand is not a number. -/
  | numericConversion (builtin : Builtin) (operand : Attribute) (value : String)
  /-- A variable to update or delete is bound nowhere. -/
  | undefinedVariable (builtin : Builtin) (name : String)
  /-- The failure left a function. -/
  | inFunction (name : String) (cause : Failure)
  /-- The failure left a script. -/
  | inScript (path : String) (cause : Failure)
  deriving Repr

namespace Failure

inductive Kind where
  | inputOutput
  | malformed
  | structural
  | undefinedFunction
  | missingArgument
  | numericConversion
  | undefinedVariable
  deriving DecidableEq, Repr

/-- The kind of the cause; layers do not change it. -/
def kind :
    Failure →
    Kind
  | inputOutput _ => .inputOutput
  | malformed _ => .malformed
  | missingInit => .structural
  | invalidCommand _ _ => .structural
  | invalidArgument _ _ _ => .structural
  | notANumber _ _ => .structural
  | undefinedFunction _ => .undefinedFunction
  | missingArgument _ _ => .missingArgument
  | numericConversion _ _ _ => .numericConversion
  | undefinedVariable _ _ => .undefinedVariable
  | inFunction _ cause => cause.kind
  | inScript _ cause => cause.kind

/-- The wording of the outermost layer. -/
def layerMessage :
    Failure →
    String
  | inputOutput _ => "I/O error"
  | malformed error =>
      "Syntax error at line " ++ String.ofList (Decimal.natText error.line) ++
        ", column " ++ String.ofList (Decimal.natText error.column) ++
        ": " ++ error.message
  | missingInit => "\"init\" function not found"
  | invalidCommand function cause =>
      "cannot parse function " ++ Text.quoted function ++ ": " ++ cause.message
  | invalidArgument command argument kind =>
      "cannot parse arg " ++ Text.quoted argument ++
        " of command " ++ Text.quoted command ++
        ": expected a scalar, got " ++ kind.name
  | notANumber name value =>
      "variable " ++ Text.quoted name ++ " = " ++ Text.quoted value ++
        " is not a floating-point number"
  | undefinedFunction name =>
      "failed to evaluate command: function " ++ Text.quoted name ++ " is not defined"
  | missingArgument builtin missing =>
      "failed to evaluate function " ++ Text.quoted builtin.name ++
        ": missing " ++ Text.quoted missing.name ++ " argument"
  | numericConversion builtin operand value =>
      "failed to evaluate function " ++ Text.quoted builtin.name ++
        ": cannot convert " ++ Text.quoted operand.name ++
        " = " ++ Text.quoted value ++ " to float"
  | undefinedVariable builtin name =>
      "failed to evaluate function " ++ Text.quoted builtin.name ++
        ": " ++ builtin.name ++ " failed, variable " ++ Text.quoted name ++
        " is undefined"
  | inFunction name _ => "failed to execute function " ++ Text.quoted name
  | inScript path _ => "failed to run script " ++ Text.quoted path

/-- What is reported of a failure: every layer, and behind it what it was put around. -/
def errorChain
    (failure : Failure) :
    ErrorChain :=
  match failure with
  | inFunction _ cause => .causedBy failure.layerMessage cause.errorChain
  | inScript _ cause => .causedBy failure.layerMessage cause.errorChain
  | inputOutput reason => .causedBy failure.layerMessage (.root reason)
  | _ => .root failure.layerMessage

/-- The whole failure on one line. -/
def message
    (failure : Failure) :
    String :=
  failure.errorChain.message

end Failure

end FunctionScript
