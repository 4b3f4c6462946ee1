import FunctionScript.Proofs.Deletion

namespace FunctionScript.Environment

/-!
# Operations on different names

Where an operation on a variable lands depends on nothing but the frames and the
bindings of its own name, and there it changes the entry of that name alone. So
operations on different names do not notice each other: in either order they lead to
the same environment and answer the same, from whichever frames they are asked for.
-/

/-- What may be done to a variable. -/
inductive VariableOperation where
  /-- Bind it in the frame itself. -/
  | define (value : String)
  /-- Assign it where it is bound, or bind it in the root. -/
  | assign (value : String)
  /-- Assign it where it is bound. -/
  | update (value : String)
  /-- Remove its nearest binding. -/
  | delete

/-- An operation on the variable of a name, asked for from a frame. -/
structure VariableChange where
  frame : Nat
  name : String
  operation : VariableOperation

/-- The answer to a change, if it gives one, and the environment after it. -/
def perform
    (environment : Environment)
    (change : VariableChange) :
    Option Bool × Environment :=
  match change.operation with
  | .define value =>
      (none, environment.defineVariable change.frame change.name value)
  | .assign value =>
      (none, environment.assign change.frame change.name value)
  | .update value =>
      (environment.applied (environment.update? change.frame change.name value)).map some id
  | .delete =>
      (environment.deletion change.frame change.name).map some id

/-- What stands under the name where an operation lands. -/
def VariableOperation.entry? :
    VariableOperation →
    Option String
  | .define value => some value
  | .assign value => some value
  | .update value => some value
  | .delete => none

/-- The answer to an operation that lands somewhere or does not. -/
def VariableOperation.answer?
    (operation : VariableOperation)
    (lands : Bool) :
    Option Bool :=
  match operation with
  | .define _ => none
  | .assign _ => none
  | .update _ => some lands
  | .delete => some lands

/-- Where a change lands, if it does anywhere. -/
def VariableChange.target?
    (change : VariableChange)
    (environment : Environment) :
    Option Nat :=
  match change.operation with
  | .define _ => some change.frame
  | .assign _ => some (environment.assignmentFrame change.frame change.name)
  | .update _ => environment.bindingFrame? change.frame change.name
  | .delete => environment.bindingFrame? change.frame change.name

/-- The environment with an entry written in one of its frames, or in none. -/
def writeEntry
    (environment : Environment)
    (name : String)
    (entry : Option String) :
    Option Nat →
    Environment
  | some place => environment.changeVariables place fun table => table.withEntry name entry
  | none => environment

/-- A change writes one entry where it lands, and answers whether it landed. -/
theorem perform_eq
    (environment : Environment)
    (change : VariableChange) :
    environment.perform change =
      (change.operation.answer? (change.target? environment).isSome,
        environment.writeEntry change.name change.operation.entry?
          (change.target? environment)) := by
  obtain ⟨frame, name, operation⟩ := change
  cases operation with
  | define value => rfl
  | assign value => rfl
  | update value =>
      simp only [perform, applied, update?, VariableChange.target?]
      cases environment.bindingFrame? frame name <;> rfl
  | delete =>
      simp only [perform, deletion, applied, delete?, VariableChange.target?]
      cases environment.bindingFrame? frame name <;> rfl

/-- The environments have the same frames, and each binds a name as in the other. -/
structure BindAlike
    (name : String)
    (first second : Environment) :
    Prop extends SameShape first second where
  bindings : ∀ place, (first.variables place)[name]? = (second.variables place)[name]?

namespace BindAlike

variable
  {first second : Environment}
  {name : String}

/-- Lookups of a name depend on the frames and the bindings of that name only. -/
theorem value?
    (alike : BindAlike name first second)
    (reach : Reach)
    (frame : Nat) :
    first.value? reach frame name = second.value? reach frame name := by
  have sameFrames : reach.frames first frame = reach.frames second frame := by
    cases reach with
    | own => rfl
    | chain => exact alike.toSameShape.chain frame
  simp only [Environment.value?, sameFrames, alike.bindings]

theorem bindingFrame?
    (alike : BindAlike name first second)
    (frame : Nat) :
    first.bindingFrame? frame name = second.bindingFrame? frame name := by
  simp only [Environment.bindingFrame?, alike.toSameShape.chain,
    Std.ExtTreeMap.contains_eq_isSome_getElem?, alike.bindings]

theorem target?
    {change : VariableChange}
    (alike : BindAlike change.name first second) :
    change.target? first = change.target? second := by
  simp only [VariableChange.target?, assignmentFrame, alike.bindingFrame?,
    alike.toSameShape.chain]

end BindAlike

/-- A change of variables that keeps the entry of a name keeps the bindings of that name. -/
theorem bindAlike_changeVariables
    (environment : Environment)
    (frame : Nat)
    {name : String}
    {change : Table String → Table String}
    (keeps : ∀ table, (change table)[name]? = table[name]?) :
    BindAlike name (environment.changeVariables frame change) environment where
  toSameShape := sameShape_changeVariables environment frame change
  bindings := by
    intro place
    by_cases same : frame = place
    · subst same
      cases found : environment.frames[frame]? <;>
        simp [changeVariables, modifyFrame, Environment.variables, Array.getElem?_modify,
          found, keeps]
    · simp [changeVariables, modifyFrame, Environment.variables, Array.getElem?_modify,
        same]

/-- Writing an entry keeps the bindings of every other name. -/
theorem bindAlike_writeEntry
    {name other : String}
    (different : other ≠ name)
    (environment : Environment)
    (entry : Option String)
    (place : Option Nat) :
    BindAlike other (environment.writeEntry name entry place) environment := by
  cases place with
  | none => exact ⟨.refl environment, fun _ => rfl⟩
  | some place =>
      rw [writeEntry]
      apply bindAlike_changeVariables
      intro table
      rw [Table.getElem?_withEntry, if_neg (Ne.symm different)]

theorem bindAlike_perform
    {change : VariableChange}
    {other : String}
    (different : other ≠ change.name)
    (environment : Environment) :
    BindAlike other (environment.perform change).2 environment := by
  rw [perform_eq]
  exact bindAlike_writeEntry different environment _ _

/-- Changes of variables that may be made in either order on a table may be so on environments. -/
theorem changeVariables_comm
    (environment : Environment)
    (firstFrame secondFrame : Nat)
    {first second : Table String → Table String}
    (commute : ∀ table, second (first table) = first (second table)) :
    (environment.changeVariables firstFrame first).changeVariables secondFrame second =
      (environment.changeVariables secondFrame second).changeVariables firstFrame first := by
  by_cases same : firstFrame = secondFrame
  · subst same
    simp only [changeVariables_changeVariables, commute]
  · simp only [changeVariables, modifyFrame, mk.injEq]
    apply Array.ext_getElem?
    intro place
    by_cases isFirst : firstFrame = place
    · subst isFirst
      simp [Array.getElem?_modify, Ne.symm same]
    · simp [Array.getElem?_modify, isFirst]

theorem writeEntry_comm
    {first second : String}
    (distinct : first ≠ second)
    (environment : Environment)
    (firstEntry secondEntry : Option String)
    (firstPlace secondPlace : Option Nat) :
    (environment.writeEntry first firstEntry firstPlace).writeEntry second secondEntry
        secondPlace =
      (environment.writeEntry second secondEntry secondPlace).writeEntry first firstEntry
        firstPlace := by
  cases firstPlace with
  | none => rfl
  | some firstPlace =>
      cases secondPlace with
      | none => rfl
      | some secondPlace =>
          simp only [writeEntry]
          apply changeVariables_comm
          intro table
          exact Table.withEntry_comm distinct table firstEntry secondEntry

/--
Two changes that do not notice each other. They lead to the same environment in either
order, each answers what it answers alone, and lookups of a third name find what they
found before.
-/
structure Commute
    (environment : Environment)
    (first second : VariableChange) :
    Prop where
  environments :
    ((environment.perform first).2.perform second).2 =
      ((environment.perform second).2.perform first).2
  firstAnswer :
    ((environment.perform second).2.perform first).1 = (environment.perform first).1
  secondAnswer :
    ((environment.perform first).2.perform second).1 = (environment.perform second).1
  thirdNames :
    ∀ third,
      third ≠ first.name →
        third ≠ second.name →
          ∀ reach frame,
            (environment.perform first).2.value? reach frame third =
                environment.value? reach frame third ∧
              (environment.perform second).2.value? reach frame third =
                environment.value? reach frame third

/-- Changes of variables of different names commute. -/
theorem changes_of_different_names_commute
    (environment : Environment)
    {first second : VariableChange}
    (distinct : first.name ≠ second.name) :
    Commute environment first second := by
  have firstTarget :
      first.target? (environment.perform second).2 = first.target? environment :=
    (bindAlike_perform distinct environment).target?
  have secondTarget :
      second.target? (environment.perform first).2 = second.target? environment :=
    (bindAlike_perform (Ne.symm distinct) environment).target?
  refine ⟨?_, ?_, ?_, ?_⟩
  · calc
      ((environment.perform first).2.perform second).2 =
          (environment.perform first).2.writeEntry second.name second.operation.entry?
            (second.target? environment) := by
        rw [perform_eq, secondTarget]
      _ =
          (environment.perform second).2.writeEntry first.name first.operation.entry?
            (first.target? environment) := by
        rw [perform_eq environment first, perform_eq environment second]
        exact writeEntry_comm distinct environment _ _ _ _
      _ = ((environment.perform second).2.perform first).2 := by
        rw [perform_eq _ first, firstTarget]
  · rw [perform_eq _ first, firstTarget, perform_eq environment first]
  · rw [perform_eq _ second, secondTarget, perform_eq environment second]
  · intro third notFirst notSecond reach frame
    exact
      ⟨(bindAlike_perform notFirst environment).value? reach frame,
        (bindAlike_perform notSecond environment).value? reach frame⟩

/-- Two variables are bound in a frame under the root, and once more in a frame under that one. -/
def withTwoLayers : Environment :=
  (initial.extend root [("x", "far"), ("y", "far")]).extend 1 [("x", "near"), ("y", "near")]

/--
From the nearer frame one variable is removed, and from the farther one the other is
assigned. Whichever is done first, the removal peels off the near binding of the one
and the assignment replaces the far value of the other.
-/
theorem removeNear_assignFar_commute :
    let removal : VariableChange := ⟨2, "x", .delete⟩
    let assignment : VariableChange := ⟨1, "y", .assign "new"⟩
    let after := ((withTwoLayers.perform removal).2.perform assignment).2
    removal.name ≠ assignment.name ∧
      Commute withTwoLayers removal assignment ∧
      (withTwoLayers.perform removal).1 = some true ∧
      [after.value? .own 2 "x", after.value? .own 1 "x"] = [none, some "far"] ∧
      [after.value? .own 2 "y", after.value? .own 1 "y"] = [some "near", some "new"] := by
  refine ⟨by decide, changes_of_different_names_commute _ (by decide), ?_, ?_, ?_⟩ <;>
    decide +kernel

end FunctionScript.Environment
