namespace FunctionScript

/-!
# Chains of errors

Whoever reports an error sees two things of it: its wording, and the error that it was
caused by, its source. Following the sources leads through the whole chain. A chain is
put on one line in two ways: by a walk that appends one source after the other, and by
listing the chain first.
-/

/-- An error as it is reported, with the errors behind it. -/
inductive ErrorChain where
  | root (wording : String)
  | causedBy (wording : String) (source : ErrorChain)
  deriving DecidableEq, Repr

namespace ErrorChain

def wording :
    ErrorChain →
    String
  | root wording => wording
  | causedBy wording _ => wording

/-- The error behind an error. -/
def source? :
    ErrorChain →
    Option ErrorChain
  | root _ => none
  | causedBy _ source => some source

theorem sizeOf_lt_of_source?
    {error source : ErrorChain}
    (found : error.source? = some source) :
    sizeOf source < sizeOf error := by
  cases error with
  | root wording => cases found
  | causedBy wording other =>
      cases found
      simp only [causedBy.sizeOf_spec]
      omega

/-- Append the wordings of all errors behind an error to a message. -/
def appendSources
    (message : String)
    (error : ErrorChain) :
    String :=
  match _found : error.source? with
  | none => message
  | some source => appendSources (message ++ ": " ++ source.wording) source
termination_by sizeOf error
decreasing_by exact sizeOf_lt_of_source? _found

/-- The message of an error, from its own wording on to the last source. -/
def message
    (error : ErrorChain) :
    String :=
  error.appendSources error.wording

/-- The error and all errors behind it. -/
def errors
    (error : ErrorChain) :
    List ErrorChain :=
  match _found : error.source? with
  | none => [error]
  | some source => error :: errors source
termination_by sizeOf error
decreasing_by exact sizeOf_lt_of_source? _found

/-- The error on one line: its wording, and then that of every other one of its chain. -/
def oneLine
    (error : ErrorChain) :
    String :=
  error.wording ++ String.join ((error.errors.drop 1).map fun cause => ": " ++ cause.wording)

end ErrorChain

end FunctionScript
