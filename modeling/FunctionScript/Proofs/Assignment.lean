import FunctionScript.Proofs.Scopes
import FunctionScript.Proofs.TableLookup
import FunctionScript.Proofs.WellFormed

namespace FunctionScript.Environment

/-!
# Assignment

An assignment writes one binding: in the nearest frame of the chain that binds the
name, or in the root if none does. What other frames then see of it depends on where
that frame stands on their own chains: a frame sees the new value if the written frame
stands there and no nearer one binds the name, and else it sees what it saw before. An
update is the same assignment, but it does not apply to a name that is bound nowhere on
the chain.
-/

/-- Whether a change that may not apply did so, and the environment after it. -/
def applied
    (before : Environment)
    (changed : Option Environment) :
    Bool × Environment :=
  (changed.isSome, changed.getD before)

/-- A place stands on the chain of a frame, and no frame before it there binds the name. -/
def InSight
    (environment : Environment)
    (frame : Nat)
    (name : String)
    (place : Nat) :
    Prop :=
  ∃ nearer farther,
    environment.chain frame = nearer ++ place :: farther ∧
      ∀ inner ∈ nearer, name ∉ environment.variables inner

variable
  {environment : Environment}
  {frame target observer : Nat}
  {name : String}

theorem mem_chain_of_inSight
    (inSight : environment.InSight frame name target) :
    target ∈ environment.chain frame := by
  obtain ⟨nearer, farther, split, _⟩ := inSight
  rw [split]
  exact List.mem_append_right nearer List.mem_cons_self

/-- The nearest frame that binds a name is the one in sight that binds it. -/
theorem bindingFrame?_eq_some_iff :
    environment.bindingFrame? frame name = some target ↔
      environment.InSight frame name target ∧
        name ∈ environment.variables target := by
  rw [bindingFrame?, List.find?_eq_some_iff_append, and_comm]
  simp only [InSight, Bool.not_eq_true', ← Bool.not_eq_true,
    Std.ExtTreeMap.contains_iff_mem, exists_and_right]

/-- Every frame of the chain is in sight if none of them binds the name. -/
theorem inSight_of_unbound
    (onChain : target ∈ environment.chain frame)
    (unbound : ∀ place ∈ environment.chain frame, name ∉ environment.variables place) :
    environment.InSight frame name target := by
  obtain ⟨nearer, farther, split⟩ := List.mem_iff_append.mp onChain
  refine ⟨nearer, farther, split, ?_⟩
  intro inner isNearer
  apply unbound
  rw [split]
  exact List.mem_append_left _ isNearer

/-- One entry of one frame is written, a value or nothing, and everything else is kept. -/
structure WritesEntry
    (before : Environment)
    (place : Nat)
    (name : String)
    (entry : Option String)
    (after : Environment) :
    Prop extends SameShape after before where
  bindings :
    ∀ other sought,
      (after.variables other)[sought]? =
        if other = place ∧ sought = name then
          entry
        else
          (before.variables other)[sought]?

theorem writesEntry_changeVariables
    (live : environment.isLive target)
    (name : String)
    (entry : Option String) :
    WritesEntry environment target name entry
      (environment.changeVariables target fun table => table.withEntry name entry) where
  toSameShape := sameShape_changeVariables environment target _
  bindings := by
    intro place sought
    rw [variables_changeVariables _ _ _ _ live]
    by_cases same : place = target
    · subst same
      simp [Table.getElem?_withEntry, eq_comm]
    · simp [same]

/-- Binding a variable writes its value. -/
theorem writesEntry_defineVariable
    (live : environment.isLive target)
    (name value : String) :
    WritesEntry environment target name (some value)
      (environment.defineVariable target name value) :=
  writesEntry_changeVariables live name (some value)

/-- Removing a variable from one frame leaves nothing there. -/
theorem writesEntry_eraseVariable
    (live : environment.isLive target)
    (name : String) :
    WritesEntry environment target name none (environment.eraseVariable target name) :=
  writesEntry_changeVariables live name none

namespace WritesEntry

variable
  {before after : Environment}
  {entry : Option String}
  {value : String}

/-- Frames other than the written one show of a name what they showed. -/
theorem findSome?_eq
    (writes : WritesEntry before target name entry after)
    {places : List Nat}
    (outside : target ∉ places) :
    (places.findSome? fun place => (after.variables place)[name]?) =
      places.findSome? fun place => (before.variables place)[name]? := by
  induction places with
  | nil => rfl
  | cons place rest inductionHypothesis =>
      have different : ¬(place = target ∧ name = name) := by
        rintro ⟨rfl, _⟩
        exact outside List.mem_cons_self
      rw [List.findSome?_cons, List.findSome?_cons, writes.bindings, if_neg different,
        inductionHypothesis (List.not_mem_of_not_mem_cons outside)]

/-- A frame sees the value that was written in its sight. -/
theorem value?_of_inSight
    (writes : WritesEntry before target name (some value) after)
    (inSight : before.InSight observer name target) :
    after.value? .chain observer name = some value := by
  obtain ⟨nearer, farther, split, unbound⟩ := inSight
  have outside : target ∉ nearer := by
    intro isNearer
    have distinct := nodup_chain before observer
    rw [split] at distinct
    exact (List.nodup_append.mp distinct).2.2 target isNearer target
      List.mem_cons_self rfl
  have nothingNearer :
      (nearer.findSome? fun place => (before.variables place)[name]?) = none :=
    List.findSome?_eq_none_iff.mpr fun inner isNearer =>
      Std.ExtTreeMap.getElem?_eq_none (unbound inner isNearer)
  rw [value?, Reach.frames, writes.toSameShape.chain, split, List.findSome?_append,
    writes.findSome?_eq outside, nothingNearer, List.findSome?_cons, writes.bindings,
    if_pos ⟨rfl, rfl⟩]
  rfl

/-- A frame sees nothing of what was written out of its sight. -/
theorem value?_of_not_inSight
    (writes : WritesEntry before target name entry after)
    (hidden : ¬before.InSight observer name target) :
    after.value? .chain observer name = before.value? .chain observer name := by
  rw [value?, value?, Reach.frames, Reach.frames, writes.toSameShape.chain]
  by_cases onChain : target ∈ before.chain observer
  · obtain ⟨nearer, farther, split, outside⟩ := List.eq_append_cons_of_mem onChain
    -- Some nearer frame binds the name, so the search ends before it comes to the target.
    have someNearer :
        (nearer.findSome? fun place => (before.variables place)[name]?) ≠ none := by
      intro nothing
      refine hidden ⟨nearer, farther, split, fun inner isNearer => ?_⟩
      have unbound := List.findSome?_eq_none_iff.mp nothing inner isNearer
      exact (getElem?_eq_none_iff _ _).mp unbound
    obtain ⟨shown, found⟩ := Option.ne_none_iff_exists'.mp someNearer
    rw [split, List.findSome?_append, List.findSome?_append, writes.findSome?_eq outside,
      found]
    rfl
  · exact writes.findSome?_eq onChain

end WritesEntry

/--
What assigning a value to a name does. One frame is written: the nearest on the chain
that binds the name, or the root if none does. The name is bound to the value there,
and every other binding of every frame is as it was. The frame that assigned sees the
value, and so does every frame that has the written one in sight; all others see what
they saw before.
-/
structure Assigns
    (before : Environment)
    (frame : Nat)
    (name value : String)
    (written : Nat)
    (after : Environment) :
    Prop extends WritesEntry before written name (some value) after where
  nearest :
    before.InSight frame name written ∧ name ∈ before.variables written ∨
      (∀ place ∈ before.chain frame, name ∉ before.variables place) ∧ written = root
  live : before.isLive written
  assigned : after.value? .chain frame name = some value
  seen :
    ∀ observer, before.InSight observer name written →
      after.value? .chain observer name = some value
  unseen :
    ∀ observer, ¬before.InSight observer name written →
      after.value? .chain observer name = before.value? .chain observer name

/-- Binding a name in the nearest frame that binds it, or else in the root, is assigning it. -/
theorem assigns_defineVariable
    (inSight : environment.InSight frame name target)
    (nearest :
      name ∈ environment.variables target ∨
        (∀ place ∈ environment.chain frame, name ∉ environment.variables place) ∧
          target = root)
    (value : String) :
    Assigns environment frame name value target
      (environment.defineVariable target name value) := by
  have live := isLive_of_mem_chain (mem_chain_of_inSight inSight)
  have writes := writesEntry_defineVariable live name value
  exact {
    toWritesEntry := writes
    nearest := nearest.imp_left fun bound => ⟨inSight, bound⟩
    live := live
    assigned := writes.value?_of_inSight inSight
    seen := fun _ => writes.value?_of_inSight
    unseen := fun _ => writes.value?_of_not_inSight
  }

/-- An assignment lands in the nearest frame that binds the name, or in the root. -/
theorem WellFormed.assignmentFrame_cases
    (wellFormed : environment.WellFormed)
    (live : environment.isLive frame)
    (name : String) :
    environment.InSight frame name (environment.assignmentFrame frame name) ∧
      (name ∈ environment.variables (environment.assignmentFrame frame name) ∨
        (∀ place ∈ environment.chain frame, name ∉ environment.variables place) ∧
          environment.assignmentFrame frame name = root) := by
  have last := wellFormed.getLast?_chain live
  cases found : environment.bindingFrame? frame name with
  | some target =>
      obtain ⟨inSight, bound⟩ := bindingFrame?_eq_some_iff.mp found
      rw [assignmentFrame, found]
      exact ⟨inSight, .inl bound⟩
  | none =>
      have unbound := bindingFrame?_eq_none_iff.mp found
      rw [assignmentFrame, found, last]
      exact ⟨inSight_of_unbound (List.mem_of_getLast? last) unbound, .inr ⟨unbound, rfl⟩⟩

/-- Where the name is bound on the chain, an update applies and is an assignment. -/
theorem applied_update?_of_bound
    (bound : ∃ place ∈ environment.chain frame, name ∈ environment.variables place)
    (value : String) :
    environment.applied (environment.update? frame name value) =
      (true, environment.assign frame name value) := by
  have found : environment.bindingFrame? frame name ≠ none := by
    intro nowhere
    obtain ⟨place, onChain, isBound⟩ := bound
    exact bindingFrame?_eq_none_iff.mp nowhere place onChain isBound
  obtain ⟨target, isNearest⟩ := Option.ne_none_iff_exists'.mp found
  simp [applied, update?, assign, assignmentFrame, isNearest]

theorem applied_update?_of_unbound
    (unbound : ∀ place ∈ environment.chain frame, name ∉ environment.variables place)
    (value : String) :
    environment.applied (environment.update? frame name value) = (false, environment) := by
  simp [applied, update?, bindingFrame?_eq_none_iff.mpr unbound]

/--
An assignment writes one binding and is seen wherever that one is in sight. An update
says that it applied and does the same if a frame of the chain binds the name; if none
does, it says that it did not and changes nothing.
-/
theorem assignment_writes_one_binding
    (wellFormed : environment.WellFormed)
    (live : environment.isLive frame)
    (name value : String) :
    (∃ written,
        Assigns environment frame name value written
          (environment.assign frame name value)) ∧
      ((∃ place ∈ environment.chain frame, name ∈ environment.variables place) →
        environment.applied (environment.update? frame name value) =
          (true, environment.assign frame name value)) ∧
      ((∀ place ∈ environment.chain frame, name ∉ environment.variables place) →
        environment.applied (environment.update? frame name value) =
          (false, environment)) := by
  obtain ⟨inSight, nearest⟩ := wellFormed.assignmentFrame_cases live name
  refine ⟨⟨_, assigns_defineVariable inSight nearest value⟩, ?_, ?_⟩
  · intro bound
    exact applied_update?_of_bound bound value
  · intro unbound
    exact applied_update?_of_unbound unbound value

/--
The root and a frame under it bind a variable; under that frame stands one that binds
nothing, and under this one another that binds the variable once more. A last frame
stands under the root.
-/
def withBranches : Environment :=
  ((((initial.defineVariable root "x" "outer").extend 0 [("x", "inner")]).extend 1 []).extend
    2 [("x", "innermost")]).extend 0 []

/--
From the frame that binds nothing the assignment goes to the frame above it. The
frame below has a nearer binding and the one on the other branch does not have the
written frame on its chain, so neither sees it.
-/
theorem withBranches_assigned :
    withBranches.WellFormed ∧
      withBranches.isLive 2 ∧
      (∃ written,
        Assigns withBranches 2 "x" "new" written (withBranches.assign 2 "x" "new")) ∧
      withBranches.applied (withBranches.update? 2 "x" "new") =
        (true, withBranches.assign 2 "x" "new") ∧
      withBranches.applied (withBranches.update? 2 "y" "new") = (false, withBranches) ∧
      [0, 1, 2, 3, 4].map
          (fun frame => (withBranches.assign 2 "x" "new").value? .chain frame "x") =
        [some "outer", some "new", some "new", some "innermost", some "outer"] := by
  have wellFormed : withBranches.WellFormed :=
    ((((WellFormed.initial.defineVariable root "x" "outer").extend rfl _).extend
      rfl _).extend rfl _).extend rfl _
  have live : withBranches.isLive 2 := rfl
  obtain ⟨assigned, updated, _⟩ := assignment_writes_one_binding wellFormed live "x" "new"
  obtain ⟨_, _, notUpdated⟩ := assignment_writes_one_binding wellFormed live "y" "new"
  refine ⟨wellFormed, live, assigned, updated ⟨1, ?_, ?_⟩, notUpdated ?_, ?_⟩ <;>
    decide +kernel

end FunctionScript.Environment
