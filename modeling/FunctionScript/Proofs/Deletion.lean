import FunctionScript.Proofs.Assignment

namespace FunctionScript.Environment

/-!
# Deletion

A name may be bound in several frames of a chain, and the nearest binding hides the
others. Removing the variable removes that binding only, so the next one shows. Asked
again and again, removals take the bindings away one after another, nearest first, and
as soon as none is left they say so and change nothing.
-/

/-- The frames of a chain that bind a name, nearest first. -/
def bindingFrames
    (environment : Environment)
    (frame : Nat)
    (name : String) :
    List Nat :=
  (environment.chain frame).filter fun place =>
    (environment.variables place).contains name

/-- Whether removing a variable applied, and the environment after it. -/
def deletion
    (environment : Environment)
    (frame : Nat)
    (name : String) :
    Bool × Environment :=
  environment.applied (environment.delete? frame name)

/-- The environment after a variable was asked to be removed so many times. -/
def afterDeletions
    (environment : Environment)
    (frame : Nat)
    (name : String) :
    Nat →
    Environment
  | 0 => environment
  | calls + 1 => ((environment.afterDeletions frame name calls).deletion frame name).2

variable
  {environment : Environment}
  {frame target : Nat}
  {name : String}

theorem head?_bindingFrames
    (environment : Environment)
    (frame : Nat)
    (name : String) :
    (environment.bindingFrames frame name).head? = environment.bindingFrame? frame name :=
  List.head?_filter

theorem nodup_bindingFrames
    (environment : Environment)
    (frame : Nat)
    (name : String) :
    (environment.bindingFrames frame name).Nodup :=
  (nodup_chain environment frame).filter _

theorem mem_bindingFrames_iff :
    target ∈ environment.bindingFrames frame name ↔
      target ∈ environment.chain frame ∧ name ∈ environment.variables target := by
  simp [bindingFrames]

theorem bindingFrames_eq_nil_iff :
    environment.bindingFrames frame name = [] ↔
      ∀ place ∈ environment.chain frame, name ∉ environment.variables place := by
  simp [bindingFrames]

/-- A frame sees the value of its nearest binding. -/
theorem value?_chain_eq
    (environment : Environment)
    (frame : Nat)
    (name : String) :
    environment.value? .chain frame name =
      (environment.bindingFrames frame name).head?.bind fun place =>
        (environment.variables place)[name]? := by
  rw [value?, Reach.frames, bindingFrames]
  induction environment.chain frame with
  | nil => rfl
  | cons place outer inductionHypothesis =>
      rw [List.findSome?_cons, List.filter_cons, Std.ExtTreeMap.contains_eq_isSome_getElem?]
      cases bound : (environment.variables place)[name]? with
      | some value => simp [bound]
      | none => simpa using inductionHypothesis

/-- Without its nearest binding, a chain binds the name in the frames behind that one. -/
theorem WritesEntry.bindingFrames_eq
    {before after : Environment}
    {outer : List Nat}
    (writes : WritesEntry before target name none after)
    (nearest : before.bindingFrames frame name = target :: outer) :
    after.bindingFrames frame name = outer := by
  have distinct := nodup_bindingFrames before frame name
  rw [nearest] at distinct
  have behind : target ∉ outer := (List.nodup_cons.mp distinct).1
  have stillBinds (place : Nat) :
      (after.variables place).contains name =
        (place != target && (before.variables place).contains name) := by
    rw [Std.ExtTreeMap.contains_eq_isSome_getElem?,
      Std.ExtTreeMap.contains_eq_isSome_getElem?, writes.bindings]
    by_cases same : place = target <;> simp [same]
  calc
    after.bindingFrames frame name =
        (before.bindingFrames frame name).filter (· != target) := by
      simp only [bindingFrames, writes.toSameShape.chain, stillBinds, List.filter_filter]
    _ = outer.filter (· != target) := by
      rw [nearest, List.filter_cons_of_neg (by simp)]
    _ = outer := by
      apply List.filter_eq_self.mpr
      intro place member
      have different : place ≠ target := by
        rintro rfl
        exact behind member
      simpa using different

/-- A removal takes the nearest binding that is left, if one is. -/
theorem deletion_eq
    (environment : Environment)
    (frame : Nat)
    (name : String) :
    environment.deletion frame name =
      match environment.bindingFrames frame name with
      | [] => (false, environment)
      | target :: _ => (true, environment.eraseVariable target name) := by
  rw [deletion, delete?, ← head?_bindingFrames]
  cases environment.bindingFrames frame name <;> rfl

/-- One binding of a name is removed, and everything else is kept. -/
structure LosesBinding
    (before : Environment)
    (name : String)
    (place : Nat)
    (after : Environment) :
    Prop extends WritesEntry before place name none after where
  wasBound : name ∈ before.variables place

/--
What so many removals of a name leave: of the frames that bound it on the chain, as
many have lost that binding, the nearest ones, and nothing else has changed.
-/
structure Peeled
    (before : Environment)
    (frame : Nat)
    (name : String)
    (calls : Nat)
    (after : Environment) :
    Prop extends SameShape after before where
  remaining :
    after.bindingFrames frame name = (before.bindingFrames frame name).drop calls
  bindings :
    ∀ place sought,
      (after.variables place)[sought]? =
        if place ∈ (before.bindingFrames frame name).take calls ∧ sought = name then
          none
        else
          (before.variables place)[sought]?

namespace Peeled

variable
  {before after : Environment}
  {calls place : Nat}

theorem nextDeletion_eq
    (peeled : Peeled before frame name calls after) :
    after.deletion frame name =
      match (before.bindingFrames frame name)[calls]? with
      | none => (false, after)
      | some target => (true, after.eraseVariable target name) := by
  rw [deletion_eq, peeled.remaining, ← List.head?_drop]
  cases (before.bindingFrames frame name).drop calls <;> rfl

/-- A binding whose turn has not come yet is still there. -/
theorem kept
    (peeled : Peeled before frame name calls after)
    (isNext : (before.bindingFrames frame name)[calls]? = some place) :
    (after.variables place)[name]? = (before.variables place)[name]? := by
  have distinct := nodup_bindingFrames before frame name
  rw [← List.take_append_drop calls (before.bindingFrames frame name)] at distinct
  have isLeft : place ∈ (before.bindingFrames frame name).drop calls := by
    rw [← List.head?_drop] at isNext
    exact List.mem_of_head? isNext
  have notTaken : place ∉ (before.bindingFrames frame name).take calls := fun isTaken =>
    (List.nodup_append.mp distinct).2.2 place isTaken place isLeft rfl
  rw [peeled.bindings, if_neg (by simp [notTaken])]

/-- The next removal takes the next binding and nothing else. -/
theorem losesBinding
    (peeled : Peeled before frame name calls after)
    (isNext : (before.bindingFrames frame name)[calls]? = some place) :
    LosesBinding after name place (after.deletion frame name).2 := by
  obtain ⟨onChain, bound⟩ := mem_bindingFrames_iff.mp (List.mem_of_getElem? isNext)
  have live : after.isLive place := by
    rw [peeled.toSameShape.isLive]
    exact isLive_of_mem_chain onChain
  rw [peeled.nextDeletion_eq, isNext]
  exact {
    toWritesEntry := writesEntry_eraseVariable live name
    wasBound := by
      rwa [Std.ExtTreeMap.mem_iff_isSome_getElem?, peeled.kept isNext,
        ← Std.ExtTreeMap.mem_iff_isSome_getElem?]
  }

theorem next
    (peeled : Peeled before frame name calls after) :
    Peeled before frame name (calls + 1) (after.deletion frame name).2 := by
  cases isNext : (before.bindingFrames frame name)[calls]? with
  | none =>
      have allTaken := List.getElem?_eq_none_iff.mp isNext
      have remaining := peeled.remaining
      have bindings := peeled.bindings
      rw [List.drop_of_length_le allTaken] at remaining
      rw [List.take_of_length_le allTaken] at bindings
      rw [peeled.nextDeletion_eq, isNext]
      exact {
        toSameShape := peeled.toSameShape
        remaining := by rwa [List.drop_of_length_le (Nat.le_succ_of_le allTaken)]
        bindings := by rwa [List.take_of_length_le (Nat.le_succ_of_le allTaken)]
      }
  | some target =>
      have loses := peeled.losesBinding isNext
      have remaining := peeled.remaining
      rw [List.drop_eq_getElem?_toList_append, isNext] at remaining
      exact {
        toSameShape := loses.toSameShape.trans peeled.toSameShape
        remaining := loses.toWritesEntry.bindingFrames_eq remaining
        bindings := by
          intro place sought
          rw [loses.bindings, peeled.bindings, List.take_add_one, isNext]
          simp only [Option.toList_some, List.mem_append, List.mem_singleton]
          grind
      }

theorem value?_chain
    (peeled : Peeled before frame name calls after) :
    after.value? .chain frame name =
      (before.bindingFrames frame name)[calls]?.bind fun place =>
        (before.variables place)[name]? := by
  rw [value?_chain_eq, peeled.remaining, List.head?_drop]
  cases isNext : (before.bindingFrames frame name)[calls]? with
  | none => rfl
  | some place => simpa using peeled.kept isNext

/-- Once all bindings are taken, no frame of the chain shows the name. -/
theorem value?_eq_none
    (peeled : Peeled before frame name calls after)
    (all : (before.bindingFrames frame name).length ≤ calls)
    (onChain : place ∈ before.chain frame)
    (reach : Reach) :
    after.value? reach place name = none := by
  have remaining := peeled.remaining
  rw [List.drop_of_length_le all, bindingFrames_eq_nil_iff,
    peeled.toSameShape.chain] at remaining
  rw [value?, List.findSome?_eq_none_iff]
  intro seen isSeen
  apply Std.ExtTreeMap.getElem?_eq_none
  apply remaining
  cases reach with
  | own =>
      rw [List.mem_singleton.mp isSeen]
      exact onChain
  | chain =>
      rw [Reach.frames, peeled.toSameShape.chain] at isSeen
      exact mem_chain_trans onChain isSeen

theorem variables_offChain
    (peeled : Peeled before frame name calls after)
    (offChain : place ∉ before.chain frame) :
    after.variables place = before.variables place := by
  have notTaken : place ∉ (before.bindingFrames frame name).take calls := fun isTaken =>
    offChain (mem_bindingFrames_iff.mp (List.mem_of_mem_take isTaken)).1
  apply Std.ExtTreeMap.ext_getElem?
  intro sought
  rw [peeled.bindings, if_neg (by simp [notTaken])]

end Peeled

/-- After each number of removals, as many of the nearest bindings are gone. -/
theorem peeled_afterDeletions
    (environment : Environment)
    (frame : Nat)
    (name : String)
    (calls : Nat) :
    Peeled environment frame name calls (environment.afterDeletions frame name calls) := by
  induction calls with
  | zero =>
      exact {
        toSameShape := .refl environment
        remaining := rfl
        bindings := by simp [afterDeletions]
      }
  | succ calls inductionHypothesis => exact inductionHypothesis.next

/--
How a name that some frames of a chain bind is removed again and again. The removals
that say that they applied are the first ones, one for each of these frames. Each takes
away the nearest binding that is left and nothing else, so that the chain shows the
next value, and the later ones change nothing. After them no frame of the chain binds
the name or sees it; frames off the chain keep what they bind all the time.
-/
structure PeelsBindings
    (environment : Environment)
    (frame : Nat)
    (name : String) :
    Prop where
  answers :
    ∀ calls,
      ((environment.afterDeletions frame name calls).deletion frame name).1 =
        decide (calls < (environment.bindingFrames frame name).length)
  removes :
    ∀ calls place,
      (environment.bindingFrames frame name)[calls]? = some place →
        LosesBinding (environment.afterDeletions frame name calls) name place
          (environment.afterDeletions frame name (calls + 1))
  shows :
    ∀ calls,
      (environment.afterDeletions frame name calls).value? .chain frame name =
        (environment.bindingFrames frame name)[calls]?.bind fun place =>
          (environment.variables place)[name]?
  rests :
    ∀ calls,
      (environment.bindingFrames frame name).length ≤ calls →
        environment.afterDeletions frame name (calls + 1) =
          environment.afterDeletions frame name calls
  gone :
    ∀ calls,
      (environment.bindingFrames frame name).length ≤ calls →
        ∀ place ∈ environment.chain frame,
          ∀ reach,
            (environment.afterDeletions frame name calls).value? reach place name = none
  offChain :
    ∀ calls,
      ∀ place ∉ environment.chain frame,
        (environment.afterDeletions frame name calls).variables place =
          environment.variables place

/-- Removals peel the bindings of a name off a chain, nearest first. -/
theorem deletions_peel_bindings
    (environment : Environment)
    (frame : Nat)
    (name : String) :
    PeelsBindings environment frame name where
  answers := by
    intro calls
    rw [(peeled_afterDeletions environment frame name calls).nextDeletion_eq]
    rcases Nat.lt_or_ge calls (environment.bindingFrames frame name).length with
      more | all
    · simp [more]
    · simp [all]
  removes := fun calls _ =>
    (peeled_afterDeletions environment frame name calls).losesBinding
  shows := fun calls => (peeled_afterDeletions environment frame name calls).value?_chain
  rests := by
    intro calls all
    rw [afterDeletions, (peeled_afterDeletions environment frame name calls).nextDeletion_eq,
      List.getElem?_eq_none all]
  gone := fun calls all _ =>
    (peeled_afterDeletions environment frame name calls).value?_eq_none all
  offChain := fun calls _ =>
    (peeled_afterDeletions environment frame name calls).variables_offChain

end FunctionScript.Environment
