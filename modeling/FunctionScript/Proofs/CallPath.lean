import FunctionScript.Proofs.ErrorChains
import FunctionScript.Proofs.Evaluation

namespace FunctionScript

/-!
# Points of a run

A run passes through the starts of functions. Such a point is reached through the
commands that lead to it, all commands before them having completed; the composite
functions that are active there leave their names in any failure that arises.
-/

namespace Failure

/-- A failure that left composite functions, the outermost named first. -/
def within
    (layers : List String)
    (cause : Failure) :
    Failure :=
  layers.foldr .inFunction cause

/-- Leaving functions does not change the kind of a failure. -/
@[simp] theorem kind_within
    (layers : List String)
    (cause : Failure) :
    (within layers cause).kind = cause.kind := by
  induction layers with
  | nil => rfl
  | cons name rest inductionHypothesis => exact inductionHypothesis

/-- A failure that left neither a function nor a script. -/
def IsCause :
    Failure →
    Prop
  | inFunction _ _ => False
  | inScript _ _ => False
  | _ => True

/-- What the message of a cause has after its own wording: the reason for which output failed. -/
def detail :
    Failure →
    List String
  | inputOutput reason => [reason]
  | _ => []

theorem layerMessages_of_isCause
    {failure : Failure}
    (isCause : failure.IsCause) :
    failure.layerMessages = failure.layerMessage :: failure.detail := by
  cases failure with
  | inFunction name cause => exact isCause.elim
  | inScript path cause => exact isCause.elim
  | _ => rfl

/-- The message names the functions that were left, and ends with the wording of the cause. -/
theorem message_within
    {cause : Failure}
    (isCause : cause.IsCause)
    (layers : List String) :
    (within layers cause).message =
      ": ".intercalate
        (layers.map (fun name => "failed to execute function " ++ Text.quoted name) ++
          cause.layerMessage :: cause.detail) := by
  rw [message_eq]
  congr 1
  induction layers with
  | nil => exact layerMessages_of_isCause isCause
  | cons name rest inductionHypothesis =>
      rw [List.map_cons, List.cons_append, ← inductionHypothesis]
      rfl

end Failure

namespace Machine

/--
While a function runs in a frame, the inner function starts in a place on the
machine that was reached; the layers name the composite functions active there.
-/
inductive Reaches :
    Function →
    Nat →
    Machine →
    List String →
    Function →
    Nat →
    Machine →
    Prop where
  | start
      (function : Function)
      (frame : Nat)
      (machine : Machine) :
      Reaches function frame machine [] function frame machine
  | through
      {body : Composite}
      {frame : Nat}
      {machine middle : Machine}
      {earlier later : List Command}
      {command : Command}
      {callee : Function}
      {layers : List String}
      {inner : Function}
      {place : Nat}
      {reached : Machine}
      (split : body.commands = earlier ++ command :: later)
      (completed :
        Finishes (fun fuel => inOrder (runCommand fuel frame) earlier machine)
          (.ok ()) middle)
      (found :
        middle.environment.function? .chain frame command.target = some callee)
      (deeper :
        Reaches callee middle.environment.depth (middle.enter frame command callee)
          layers inner place reached) :
      Reaches (.composite body) frame machine
        (body.name :: layers) inner place reached

end Machine

end FunctionScript
