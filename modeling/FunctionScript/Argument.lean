namespace FunctionScript

/-!
# Arguments

A command names its arguments. The text of an argument is its value, unless it
starts with a sigil: then the rest names a variable, which is looked up in the
caller's own frame or along the caller's whole chain of frames.
-/

/-- Where an argument's value comes from. -/
inductive Argument.Source where
  /-- The text itself. -/
  | literal (text : String)
  /-- The variable of this name in the caller's own frame. -/
  | param (name : String)
  /-- The variable of this name nearest to the caller on its chain of frames. -/
  | ref (name : String)
  deriving DecidableEq, Repr

/-- A named argument of a command. -/
structure Argument where
  name : String
  source : Argument.Source
  deriving DecidableEq, Repr

namespace Argument

/-- The mark of a variable of the caller's own frame. -/
def paramSigil : Char :=
  '$'

/-- The mark of a variable of the caller's chain. -/
def refSigil : Char :=
  '#'

/-- Tell by its first character where a text's value comes from; one sigil is taken off. -/
def Source.ofText
    (text : String) :
    Source :=
  match text.toList with
  | [] => .literal text
  | first :: rest =>
      if first = paramSigil then
        .param (String.ofList rest)
      else if first = refSigil then
        .ref (String.ofList rest)
      else
        .literal text

def ofText
    (name text : String) :
    Argument :=
  ⟨name, Source.ofText text⟩

end Argument

end FunctionScript
