import FunctionScript.Proofs.View

namespace FunctionScript.View

/-!
# Simulation between two views

Two views in lockstep run the same functions with the same outcomes. How the views
correspond may depend on how many frames the run has entered: a simulation gives
a correspondence for each such level, and says which functions it can follow there.
-/

/-- Both runs come to the same outcome and to related views, or stop for the same reason. -/
inductive Run.Related
    (relation : View → View → Prop) :
    Run → Run → Prop where
  | stopped (stop : Stop) :
      Related relation (.error stop) (.error stop)
  | finished
      (outcome : Outcome)
      {left right : View}
      (related : relation left right) :
      Related relation (.ok (outcome, left)) (.ok (outcome, right))

namespace Run.Related

variable {relation : View → View → Prop}

theorem of_eq
    {left right : Run}
    (same : left = right) :
    Related Eq left right := by
  subst same
  rcases left with stop | ⟨outcome, view⟩
  · exact .stopped stop
  · exact .finished outcome rfl

theorem symm
    {left right : Run}
    (related : Related relation left right) :
    Related (fun right left => relation left right) right left := by
  cases related with
  | stopped stop => exact .stopped stop
  | finished outcome related => exact .finished outcome related

/-- If runs look related from two frames and one of them has finished, so has the other. -/
theorem exists_of_finished
    {firstFrame secondFrame : Nat}
    {first second : FunctionScript.Run}
    (related :
      Related relation
        (Machine.Run.seenFrom firstFrame first)
        (Machine.Run.seenFrom secondFrame second))
    {outcome : Outcome}
    {after : Machine}
    (finished : first = .ok (outcome, after)) :
    ∃ other,
      second = .ok (outcome, other) ∧
        relation (after.view firstFrame) (other.view secondFrame) := by
  subst finished
  rcases second with stop | ⟨otherOutcome, other⟩
  · cases related
  · cases related with
    | finished _ related => exact ⟨other, rfl, related⟩

end Run.Related

/-- Related runs stay related when outcomes are changed alike and views in keeping. -/
theorem Run.Related.map
    {relation further : View → View → Prop}
    {left right : Run}
    (related : Related relation left right)
    (onOutcome : Outcome → Outcome)
    {onLeft onRight : View → View}
    (keeps :
      ∀ left right, relation left right → further (onLeft left) (onRight right)) :
    Related further
      (left.map fun (outcome, after) => (onOutcome outcome, onLeft after))
      (right.map fun (outcome, after) => (onOutcome outcome, onRight after)) := by
  cases related with
  | stopped stop => exact .stopped stop
  | finished outcome related => exact .finished _ (keeps _ _ related)

/-- Lists of steps are related if their steps are. -/
theorem Run.Related.inOrder
    {relation : View → View → Prop}
    {step : α → View → Run}
    {items : List α}
    (stepRelated :
      ∀ item ∈ items, ∀ left right,
        relation left right →
          Related relation (step item left) (step item right))
    {left right : View}
    (related : relation left right) :
    Related relation (inOrder step items left) (inOrder step items right) := by
  induction items generalizing left right with
  | nil => exact .finished _ related
  | cons first rest inductionHypothesis =>
      have firstRelated := stepRelated first (by simp) left right related
      simp only [View.inOrder]
      generalize step first left = leftRun at firstRelated ⊢
      generalize step first right = rightRun at firstRelated ⊢
      cases firstRelated with
      | stopped stop => exact .stopped stop
      | finished outcome middleRelated =>
          cases outcome with
          | error failure => exact .finished _ middleRelated
          | ok done =>
              exact inductionHypothesis
                (fun item member => stepRelated item (by simp [member]))
                middleRelated

/--
A correspondence of views for each level of calls, which every function it admits
preserves: builtin functions at once, and composite functions through the frames
that their commands enter and leave.
-/
structure Simulation
    (known : String → Option Function)
    (relation : Nat → View → View → Prop)
    (admits : Nat → Function → Prop) :
    Prop where
  execute :
    ∀ level builtin left right,
      admits level (.builtin builtin) →
        relation level left right →
          (left.execute builtin).1 = (right.execute builtin).1 ∧
            relation level (left.execute builtin).2 (right.execute builtin).2
  enter :
    ∀ level body command left right,
      admits level (.composite body) →
        command ∈ body.commands →
          relation level left right →
            relation (level + 1) (left.enter command) (right.enter command)
  callee :
    ∀ level body command function,
      admits level (.composite body) →
        command ∈ body.commands →
          known command.target = some function →
            admits (level + 1) function
  leave :
    ∀ level left right,
      relation (level + 1) left right → relation level left.leave right.leave

namespace Simulation

variable
  {known : String → Option Function}
  {relation : Nat → View → View → Prop}
  {admits : Nat → Function → Prop}

theorem callBuiltin
    (simulation : Simulation known relation admits)
    {level : Nat}
    {builtin : Builtin}
    (admitted : admits level (.builtin builtin))
    {left right : View}
    (related : relation level left right) :
    Run.Related (relation level)
      (.ok (left.execute builtin)) (.ok (right.execute builtin)) := by
  obtain ⟨sameOutcome, afterRelated⟩ :=
    simulation.execute level builtin left right admitted related
  rw [← Prod.eta (left.execute builtin), ← Prod.eta (right.execute builtin),
    sameOutcome]
  exact .finished _ afterRelated

/-- Functions that the simulation admits run in lockstep. -/
theorem call
    (simulation : Simulation known relation admits)
    (fuel : Nat)
    {level : Nat}
    {function : Function}
    (admitted : admits level function)
    {left right : View}
    (related : relation level left right) :
    Run.Related (relation level)
      (View.call known fuel function left)
      (View.call known fuel function right) := by
  induction fuel, function using Machine.call_induction
    generalizing level left right with
  | builtin fuel builtin =>
      rw [call_builtin, call_builtin]
      exact simulation.callBuiltin admitted related
  | withoutFuel body => exact .stopped _
  | composite fuel body inductionHypothesis =>
      refine Run.Related.map (Run.Related.inOrder ?_ related) _ (fun _ _ => id)
      intro command member left right related
      simp only [View.dispatch]
      cases found : known command.target with
      | none => exact .finished _ related
      | some function =>
          have calleeRelated :=
            inductionHypothesis function
              (simulation.callee level body command function admitted member found)
              (simulation.enter level body command left right admitted member related)
          exact calleeRelated.map id (simulation.leave level)

end Simulation

end FunctionScript.View

namespace FunctionScript.Machine

/-- Runs that look the same from a frame finish alike. -/
theorem Run.exists_of_seenFrom
    {frame : Nat}
    {first second : Run}
    (same : seenFrom frame first = seenFrom frame second)
    {outcome : Outcome}
    {after : Machine}
    (finished : first = .ok (outcome, after)) :
    ∃ other,
      second = .ok (outcome, other) ∧ other.view frame = after.view frame := by
  obtain ⟨other, otherFinished, sameView⟩ :=
    (View.Run.Related.of_eq same).exists_of_finished finished
  exact ⟨other, otherFinished, sameView.symm⟩

end FunctionScript.Machine
