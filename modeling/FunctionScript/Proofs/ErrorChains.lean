import FunctionScript.Failure

namespace FunctionScript

/-!
# Chains of errors on one line

The walk along the sources and the list of the chain come to the same line: the wordings
of all errors of the chain with a colon between them, the outermost first. The line of an
error that was put around another one is therefore its own wording and the line of the
other one.
-/

namespace ErrorChain

/-- The wordings of all errors of the chain, the outermost first. -/
def wordings :
    ErrorChain →
    List String
  | root wording => [wording]
  | causedBy wording source => wording :: source.wordings

theorem wordings_ne_nil
    (error : ErrorChain) :
    error.wordings ≠ [] := by
  cases error <;> exact List.cons_ne_nil _ _

/-- The wordings of the errors behind an error. -/
def laterWordings
    (error : ErrorChain) :
    List String :=
  error.source?.elim [] wordings

theorem wordings_eq_cons
    (error : ErrorChain) :
    error.wordings = error.wording :: error.laterWordings := by
  cases error <;> rfl

/-- A list of texts on one line, with the mark that separates them in front of all but the first. -/
theorem intercalate_eq_append_join
    (first : String)
    (others : List String) :
    ": ".intercalate (first :: others) = first ++ String.join (others.map (": " ++ ·)) := by
  induction others generalizing first with
  | nil => simp
  | cons next others inductionHypothesis =>
      rw [String.intercalate_cons_of_ne_nil (List.cons_ne_nil _ _), inductionHypothesis,
        List.map_cons, String.join_cons]
      simp only [String.append_assoc]

theorem errors_eq
    (error : ErrorChain) :
    error.errors = error :: error.source?.elim [] errors := by
  rw [errors]
  cases error <;> rfl

theorem map_wording_errors
    (error : ErrorChain) :
    error.errors.map wording = error.wordings := by
  induction error with
  | root wording => rw [errors_eq]; rfl
  | causedBy wording source inductionHypothesis =>
      rw [errors_eq]
      exact congrArg (wording :: ·) inductionHypothesis

/-- The line that lists the chain. -/
theorem oneLine_eq
    (error : ErrorChain) :
    error.oneLine = ": ".intercalate error.wordings := by
  have later : (error.errors.drop 1).map wording = error.laterWordings := by
    rw [List.map_drop, map_wording_errors, wordings_eq_cons]
    rfl
  rw [oneLine, wordings_eq_cons, intercalate_eq_append_join, ← later, List.map_map]
  rfl

/-- What the walk along the sources appends. -/
theorem appendSources_eq
    (message : String)
    (error : ErrorChain) :
    error.appendSources message =
      message ++ String.join (error.laterWordings.map (": " ++ ·)) := by
  induction error generalizing message with
  | root wording =>
      rw [appendSources]
      simp [source?, laterWordings]
  | causedBy wording source inductionHypothesis =>
      rw [appendSources]
      simp only [source?]
      have later : (causedBy wording source).laterWordings = source.wordings := rfl
      rw [inductionHypothesis, later, wordings_eq_cons, List.map_cons, String.join_cons]
      simp only [String.append_assoc]

/-- The line that the walk along the sources makes. -/
theorem message_eq
    (error : ErrorChain) :
    error.message = ": ".intercalate error.wordings := by
  rw [message, appendSources_eq, wordings_eq_cons, intercalate_eq_append_join]

/-- The line of an error that another one was put around goes on behind the wording of that. -/
theorem oneLine_causedBy
    (wording : String)
    (source : ErrorChain) :
    (causedBy wording source).oneLine = wording ++ ": " ++ source.message := by
  rw [oneLine_eq, message_eq, wordings,
    String.intercalate_cons_of_ne_nil source.wordings_ne_nil]

end ErrorChain

namespace Failure

/-- The wordings of all layers and of the cause, the outermost first. -/
def layerMessages
    (failure : Failure) :
    List String :=
  failure.errorChain.wordings

theorem message_eq
    (failure : Failure) :
    failure.message = ": ".intercalate failure.layerMessages :=
  failure.errorChain.message_eq

theorem layerMessages_ne_nil
    (failure : Failure) :
    failure.layerMessages ≠ [] :=
  failure.errorChain.wordings_ne_nil

end Failure

end FunctionScript
