import FunctionScript.Argument

namespace FunctionScript

/-!
# Commands

A command calls a function by name and hands it arguments. The name may be
written with one leading reference sigil, which is not part of it.
-/

/-- A call of the function `target` with named arguments. -/
structure Command where
  target : String
  arguments : List Argument
  deriving DecidableEq, Repr

namespace Command

/-- A written target without one leading reference sigil. -/
def targetName
    (written : String) :
    String :=
  match written.toList with
  | [] => written
  | first :: rest =>
      if first = Argument.refSigil then
        String.ofList rest
      else
        written

def ofTarget
    (written : String)
    (arguments : List Argument) :
    Command :=
  ⟨targetName written, arguments⟩

end Command

end FunctionScript
