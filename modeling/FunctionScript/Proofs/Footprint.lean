import FunctionScript.Proofs.Balance

namespace FunctionScript

/-!
# What evaluation writes

A call writes along the chain of its frame. On the chain it may change values and
remove names, but a name that is bound nowhere yet is bound in the outermost frame:
a frame between the call and the root never binds more names than before.
-/

namespace Environment

/-- The frames of a chain but for the outermost one. -/
def innerChain
    (environment : Environment)
    (frame : Nat) :
    List Nat :=
  (environment.chain frame).dropLast

theorem mem_chain_of_mem_innerChain
    {environment : Environment}
    {frame place : Nat}
    (inner : place ∈ environment.innerChain frame) :
    place ∈ environment.chain frame :=
  List.mem_of_mem_dropLast inner

/-- In a well-formed environment, the root alone is outermost. -/
theorem WellFormed.mem_innerChain
    {environment : Environment}
    {frame place : Nat}
    (wellFormed : environment.WellFormed)
    (live : environment.isLive frame)
    (onChain : place ∈ environment.chain frame)
    (notRoot : place ≠ root) :
    place ∈ environment.innerChain frame := by
  have split := List.dropLast_append_getLast? root (wellFormed.getLast?_chain live)
  rw [← split] at onChain
  rcases List.mem_append.mp onChain with inner | last
  · exact inner
  · exact absurd (List.mem_singleton.mp last) notRoot

/-- The outermost frame of a chain is none of the others. -/
theorem getLast?_notMem_innerChain
    {environment : Environment}
    {frame outermost : Nat}
    (last : (environment.chain frame).getLast? = some outermost) :
    outermost ∉ environment.innerChain frame := by
  intro inner
  have distinct := nodup_chain environment frame
  rw [← List.dropLast_append_getLast? outermost last] at distinct
  exact (List.nodup_append.mp distinct).2.2 outermost inner outermost
    (List.mem_singleton_self outermost) rfl

/--
The environments differ along one chain only, and on it no frame but the outermost
binds a name that it did not bind before.
-/
structure Footprint
    (frame : Nat)
    (before after : Environment) :
    Prop extends ChangesAlong frame before after where
  names :
    ∀ place ∈ before.innerChain frame, ∀ name ∈ after.variables place,
      name ∈ before.variables place

namespace Footprint

theorem refl
    (frame : Nat)
    (environment : Environment) :
    Footprint frame environment environment :=
  ⟨.refl frame environment, fun _ _ _ member => member⟩

theorem trans
    {frame : Nat}
    {first second third : Environment}
    (left : Footprint frame first second)
    (right : Footprint frame second third) :
    Footprint frame first third where
  toChangesAlong := left.toChangesAlong.trans right.toChangesAlong
  names := by
    intro place inner name bound
    have innerSecond : place ∈ second.innerChain frame := by
      rwa [innerChain, left.toSameShape.chain frame]
    exact left.names place inner name (right.names place innerSecond name bound)

/-- A change of variables on a chain that adds names to the outermost frame at most. -/
theorem of_changeVariables
    {environment : Environment}
    {frame target : Nat}
    {change : Table String → Table String}
    (onChain : target ∈ environment.chain frame)
    (noName :
      target ∈ environment.innerChain frame →
        ∀ name ∈ change (environment.variables target),
          name ∈ environment.variables target) :
    Footprint frame environment (environment.changeVariables target change) where
  toChangesAlong := changesAlong_changeVariables onChain change
  names := by
    intro place inner name bound
    rw [variables_changeVariables environment target place change
      (isLive_of_mem_chain onChain)] at bound
    by_cases same : place = target
    · subst same
      rw [if_pos rfl] at bound
      exact noName inner name bound
    · rwa [if_neg same] at bound

variable
  {environment : Environment}
  {frame : Nat}
  {name : String}

/-- Binding a name once more where it is bound adds no name. -/
theorem of_defineVariable
    {target : Nat}
    (found : environment.bindingFrame? frame name = some target)
    (value : String) :
    Footprint frame environment (environment.defineVariable target name value) := by
  have isBound : name ∈ environment.variables target := by
    simpa using List.find?_some found
  rw [defineVariable_eq_changeVariables]
  apply of_changeVariables (mem_chain_of_bindingFrame? found)
  intro _ other bound
  rcases Std.ExtTreeMap.mem_insert.mp bound with same | wasBound
  · rwa [← Std.LawfulEqCmp.compare_eq_iff_eq.mp same]
  · exact wasBound

theorem of_eraseVariable
    {target : Nat}
    (onChain : target ∈ environment.chain frame)
    (name : String) :
    Footprint frame environment (environment.eraseVariable target name) := by
  rw [eraseVariable_eq_changeVariables]
  apply of_changeVariables onChain
  intro _ other bound
  exact Std.ExtTreeMap.mem_of_mem_erase bound

/-- An assignment adds a name to the outermost frame, or to none. -/
theorem of_assign
    (live : environment.isLive frame)
    (name value : String) :
    Footprint frame environment (environment.assign frame name value) := by
  obtain ⟨outermost, last⟩ := exists_getLast?_chain live
  rw [assign, assignmentFrame, last]
  cases found : environment.bindingFrame? frame name with
  | some target => exact of_defineVariable found value
  | none =>
      rw [defineVariable_eq_changeVariables]
      apply of_changeVariables (List.mem_of_getLast? last)
      intro inner
      exact absurd inner (getLast?_notMem_innerChain last)

/-- Dropping the fresh frame of a call leaves the footprint of the caller. -/
theorem leave
    {caller : Nat}
    {values : List (String × String)}
    {after : Environment}
    (live : environment.isLive caller)
    (footprint :
      Footprint environment.depth (environment.extend caller values) after) :
    Footprint caller environment (after.pop environment.depth) where
  toChangesAlong := footprint.toChangesAlong.leave values live
  names := by
    intro place inner name bound
    have onChain := mem_chain_of_mem_innerChain inner
    have before : place < environment.depth :=
      isLive_iff.mp (isLive_of_mem_chain onChain)
    have notRoot : environment.depth ≠ root := Nat.ne_of_gt (Nat.zero_lt_of_lt before)
    have callerChain : environment.chain caller ≠ [] := List.ne_nil_of_mem onChain
    have innerExtended :
        place ∈ (environment.extend caller values).innerChain environment.depth := by
      rw [innerChain, chain_extend values live,
        List.dropLast_cons_of_ne_nil callerChain]
      exact List.mem_cons_of_mem _ inner
    rw [variables_pop notRoot before] at bound
    have wasBound := footprint.names place innerExtended name bound
    rwa [variables_extend, if_neg (Nat.ne_of_lt before)] at wasBound

end Footprint

end Environment

namespace Machine

variable
  {machine : Machine}
  {frame : Nat}

theorem footprint_perform
    (live : machine.environment.isLive frame)
    (builtin : Builtin)
    (effect : Effect) :
    Environment.Footprint frame machine.environment
      (machine.perform builtin frame effect).2.environment := by
  cases effect with
  | write line => exact .refl frame _
  | assign name value => exact .of_assign live name value
  | update name value =>
      simp only [perform, Environment.update?]
      cases found : machine.environment.bindingFrame? frame name with
      | none => exact .refl frame _
      | some target => exact .of_defineVariable found value
  | delete name =>
      simp only [perform, Environment.delete?]
      cases found : machine.environment.bindingFrame? frame name with
      | none => exact .refl frame _
      | some target =>
          exact .of_eraseVariable (Environment.mem_chain_of_bindingFrame? found) name

/-- Every call keeps to the footprint of its frame. -/
theorem kept_footprint :
    Kept fun frame before after =>
      Environment.Footprint frame before.environment after.environment where
  refl := fun frame machine => .refl frame machine.environment
  trans := fun _ _ _ _ left right => left.trans right
  execute := by
    intro builtin frame machine live
    simp only [execute]
    cases builtin.effect machine.environment frame with
    | error failure => exact .refl frame _
    | ok effect => exact footprint_perform live builtin effect
  dispatch := fun _ _ _ _ _ live footprint => footprint.leave live

/--
What a run in a frame may write: nothing in frames that are not on the chain of the
frame, and no new name in frames of the chain but for the root.
-/
structure WritesWithin
    (frame : Nat)
    (before after : Environment) :
    Prop where
  offChain :
    ∀ place, place ∉ before.chain frame →
      after.variables place = before.variables place
  onChain :
    ∀ place ∈ before.chain frame, place ≠ Environment.root →
      ∀ name ∈ after.variables place, name ∈ before.variables place
  newNames :
    ∀ place, ∀ name ∈ after.variables place,
      name ∉ before.variables place → place = Environment.root

/-- In a well-formed environment, the outermost frame of the footprint is the root. -/
theorem WritesWithin.of_footprint
    {before after : Environment}
    (wellFormed : before.WellFormed)
    (live : before.isLive frame)
    (footprint : Environment.Footprint frame before after) :
    WritesWithin frame before after := by
  have onChain :
      ∀ place ∈ before.chain frame, place ≠ Environment.root →
        ∀ name ∈ after.variables place, name ∈ before.variables place := by
    intro place member notRoot
    exact footprint.names place (wellFormed.mem_innerChain live member notRoot)
  refine ⟨footprint.offChain, onChain, ?_⟩
  intro place name bound unbound
  by_contra notRoot
  by_cases member : place ∈ before.chain frame
  · exact unbound (onChain place member notRoot name bound)
  · rw [footprint.offChain place member] at bound
    exact unbound bound

/--
Functions and commands that run in a frame, however they end, write along the chain
of the frame only, and bind new names in the root only.
-/
theorem evaluation_writesWithin
    (wellFormed : machine.environment.WellFormed)
    (live : machine.environment.isLive frame) :
    (∀ function outcome after,
      Finishes (fun fuel => machine.call fuel function frame) outcome after →
        WritesWithin frame machine.environment after.environment) ∧
    ∀ command outcome after,
      Finishes (fun fuel => machine.runCommand fuel frame command) outcome after →
        WritesWithin frame machine.environment after.environment := by
  constructor
  · intro function outcome after finishes
    obtain ⟨fuel, ran⟩ := finishes
    exact .of_footprint wellFormed live (kept_footprint.call ran)
  · intro command outcome after finishes
    obtain ⟨fuel, ran⟩ := finishes
    exact .of_footprint wellFormed live (kept_footprint.runCommand ran)

/-- A body that assigns a variable, removes another, and fails to remove it once more. -/
def setAndForget : Composite where
  name := "settle"
  commands := [
    ⟨"create", [⟨"id", .literal "x"⟩, ⟨"value", .literal "new"⟩]⟩,
    ⟨"delete", [⟨"id", .literal "y"⟩]⟩,
    ⟨"delete", [⟨"id", .literal "y"⟩]⟩]

/-- The bare machine with two frames under the root, one variable in each of them. -/
def bareWithSiblings : Machine :=
  { bare with
    environment :=
      (bare.environment.extend Environment.root [("y", "old")]).extend
        Environment.root [("x", "hidden")] }

/-- The assignment goes past the sibling that binds the variable, to the root. -/
theorem setAndForget_writesWithin :
    bareWithSiblings.environment.WellFormed ∧
      bareWithSiblings.environment.isLive 1 ∧
      ∃ outcome after,
        Finishes
            (fun fuel => bareWithSiblings.call fuel (.composite setAndForget) 1)
            outcome after ∧
          outcome ≠ .ok () ∧
          WritesWithin 1 bareWithSiblings.environment after.environment ∧
          "x" ∉ bareWithSiblings.environment.variables Environment.root ∧
          after.environment.value? .own Environment.root "x" = some "new" ∧
          after.environment.value? .own 1 "y" = none := by
  have bareWellFormed : bare.environment.WellFormed :=
    Environment.WellFormed.initial.overlayRoot _ _
  have wellFormed : bareWithSiblings.environment.WellFormed :=
    (bareWellFormed.extend rfl _).extend rfl _
  have fails :
      (bareWithSiblings.call 1 (.composite setAndForget) 1).toOption.map
          (fun ended =>
            (ended.1.isOk, ended.2.environment.value? .own Environment.root "x",
              ended.2.environment.value? .own 1 "y")) =
        some (false, some "new", none) := by
    decide +kernel
  obtain ⟨outcome, after, ran, observed⟩ := exists_of_observed fails
  obtain ⟨isNotOk, rootValue, removed⟩ : _ ∧ _ ∧ _ := by
    simpa only [Prod.mk.injEq] using observed
  have finishes :
      Finishes (fun fuel => bareWithSiblings.call fuel (.composite setAndForget) 1)
        outcome after :=
    ⟨1, ran⟩
  refine ⟨wellFormed, rfl, outcome, after, finishes, ?_,
    (evaluation_writesWithin wellFormed rfl).1 _ _ _ finishes, ?_, rootValue, removed⟩
  · rintro rfl
    cases isNotOk
  · decide +kernel

end Machine

end FunctionScript
