import FunctionScript.Proofs.Chain

namespace FunctionScript.Environment

/-!
# What evaluation keeps of an environment

Evaluation moves no frame and binds no function: two environments of the same
shape differ in variables only. Between the start and the end of a call they
differ only along the chain of the frame it runs in. A call itself happens in an
extended environment, whose newest frame holds the arguments.
-/

/-- Both environments have the same frames, links and functions. -/
structure SameShape
    (first second : Environment) :
    Prop where
  depth : first.depth = second.depth
  parents : ∀ place, first.parent? place = second.parent? place
  functions : ∀ place, first.functions place = second.functions place

namespace SameShape

theorem refl
    (environment : Environment) :
    SameShape environment environment :=
  ⟨rfl, fun _ => rfl, fun _ => rfl⟩

theorem symm
    {first second : Environment}
    (same : SameShape first second) :
    SameShape second first :=
  ⟨same.depth.symm, fun place => (same.parents place).symm,
    fun place => (same.functions place).symm⟩

theorem trans
    {first second third : Environment}
    (left : SameShape first second)
    (right : SameShape second third) :
    SameShape first third :=
  ⟨left.depth.trans right.depth,
    fun place => (left.parents place).trans (right.parents place),
    fun place => (left.functions place).trans (right.functions place)⟩

variable {first second : Environment}

theorem isLive
    (same : SameShape first second)
    (frame : Nat) :
    first.isLive frame = second.isLive frame := by
  simp only [Environment.isLive, same.depth]

theorem chain
    (same : SameShape first second)
    (frame : Nat) :
    first.chain frame = second.chain frame :=
  chain_congr
    (fun place _ => same.isLive place)
    (fun place _ => same.parents place)

/-- The shape tells the function of every name. -/
theorem function?
    (same : SameShape first second)
    (reach : Reach)
    (frame : Nat)
    (name : String) :
    first.function? reach frame name = second.function? reach frame name := by
  have sameFrames : reach.frames first frame = reach.frames second frame := by
    cases reach with
    | own => rfl
    | chain => exact same.chain frame
  simp only [Environment.function?, sameFrames, same.functions]

end SameShape

/-- The environments differ at most in the variables of the frames on one chain. -/
structure ChangesAlong
    (frame : Nat)
    (before after : Environment) :
    Prop extends SameShape after before where
  offChain :
    ∀ place, place ∉ before.chain frame →
      after.variables place = before.variables place

namespace ChangesAlong

theorem refl
    (frame : Nat)
    (environment : Environment) :
    ChangesAlong frame environment environment :=
  ⟨.refl environment, fun _ _ => rfl⟩

theorem trans
    {frame : Nat}
    {first second third : Environment}
    (left : ChangesAlong frame first second)
    (right : ChangesAlong frame second third) :
    ChangesAlong frame first third where
  toSameShape := right.toSameShape.trans left.toSameShape
  offChain := by
    intro place outside
    have outsideSecond : place ∉ second.chain frame := by
      rwa [left.toSameShape.chain frame]
    rw [right.offChain place outsideSecond, left.offChain place outside]

end ChangesAlong

theorem sameShape_changeVariables
    (environment : Environment)
    (frame : Nat)
    (change : Table String → Table String) :
    SameShape (environment.changeVariables frame change) environment :=
  ⟨by simp, by simp, by simp⟩

/-- Changing the variables of a frame on a chain is a change along it. -/
theorem changesAlong_changeVariables
    {environment : Environment}
    {frame target : Nat}
    (onChain : target ∈ environment.chain frame)
    (change : Table String → Table String) :
    ChangesAlong frame environment
      (environment.changeVariables target change) where
  toSameShape := sameShape_changeVariables environment target change
  offChain := by
    intro place outside
    have different : place ≠ target := by
      rintro rfl
      exact outside onChain
    simp [variables_changeVariables, isLive_of_mem_chain onChain, different]

/-- The environment with a fresh frame under a caller, in which values are bound. -/
def extend
    (environment : Environment)
    (caller : Nat)
    (values : List (String × String)) :
    Environment :=
  (environment.push caller).bindAll environment.depth values

section Extend

variable
  (environment : Environment)
  (caller place : Nat)
  (values : List (String × String))

@[simp] theorem depth_extend :
    (environment.extend caller values).depth = environment.depth + 1 := by
  simp [extend, bindAll_eq_changeVariables]

theorem isLive_extend :
    (environment.extend caller values).isLive environment.depth := by
  simp [isLive_iff]

theorem parent?_extend :
    (environment.extend caller values).parent? place =
      if place = environment.depth then
        some caller
      else
        environment.parent? place := by
  simp [extend, bindAll_eq_changeVariables, parent?_push]

@[simp] theorem functions_extend :
    (environment.extend caller values).functions place =
      environment.functions place := by
  simp [extend, bindAll_eq_changeVariables]

/-- The fresh frame binds exactly the values. -/
theorem variables_extend :
    (environment.extend caller values).variables place =
      if place = environment.depth then
        Table.ofEntries values
      else
        environment.variables place := by
  have live : (environment.push caller).isLive environment.depth := by
    simp [isLive_iff]
  simp [extend, bindAll_eq_changeVariables, variables_changeVariables, live,
    variables_of_depth_le, Table.ofEntries]

theorem SameShape.extend
    {first second : Environment}
    (same : SameShape first second)
    (caller : Nat)
    (firstValues secondValues : List (String × String)) :
    SameShape (first.extend caller firstValues) (second.extend caller secondValues) :=
  ⟨by simp [same.depth], by simp [parent?_extend, same.depth, same.parents],
    by simp [same.functions]⟩

variable {environment caller}

/-- The chain of the fresh frame goes on with the chain of the caller. -/
theorem chain_extend
    (live : environment.isLive caller) :
    (environment.extend caller values).chain environment.depth =
      environment.depth :: environment.chain caller := by
  rw [← chain_push live]
  apply chain_congr <;>
    simp [extend, bindAll_eq_changeVariables, isLive]

/-- Functions are found from the fresh frame as they are from the caller. -/
theorem function?_extend
    (live : environment.isLive caller)
    (name : String) :
    (environment.extend caller values).function? .chain environment.depth name =
      environment.function? .chain caller name := by
  have nothingFresh : environment.functions environment.depth = ∅ :=
    functions_of_depth_le (Nat.le_refl _)
  simp [function?, Reach.frames, chain_extend values live, nothingFresh]

/-- Dropping the fresh frame leaves a change along the chain of the caller. -/
theorem ChangesAlong.leave
    {after : Environment}
    (live : environment.isLive caller)
    (changed :
      ChangesAlong environment.depth (environment.extend caller values) after) :
    ChangesAlong caller environment (after.pop environment.depth) := by
  have callerBefore : caller < environment.depth := isLive_iff.mp live
  have notRoot : environment.depth ≠ root := by
    simp only [root]
    omega
  have depthBefore : environment.depth ≤ after.depth := by
    simp [changed.depth]
  have depthAfter : (after.pop environment.depth).depth = environment.depth :=
    depth_pop notRoot depthBefore
  -- Behind the depth no frame stands on either side; before it nothing was dropped.
  refine ⟨⟨depthAfter, ?_, ?_⟩, ?_⟩
  · intro place
    rcases Nat.lt_or_ge place environment.depth with before | behind
    · rw [parent?_pop notRoot before, changed.parents, parent?_extend]
      simp [Nat.ne_of_lt before]
    · rw [parent?_of_depth_le behind, parent?_of_depth_le (by omega)]
  · intro place
    rcases Nat.lt_or_ge place environment.depth with before | behind
    · rw [functions_pop notRoot before, changed.functions, functions_extend]
    · rw [functions_of_depth_le behind, functions_of_depth_le (by omega)]
  · intro place outside
    rcases Nat.lt_or_ge place environment.depth with before | behind
    · have outsideExtended :
          place ∉ (environment.extend caller values).chain environment.depth := by
        simp [chain_extend values live, outside, Nat.ne_of_lt before]
      rw [variables_pop notRoot before, changed.offChain place outsideExtended,
        variables_extend]
      simp [Nat.ne_of_lt before]
    · rw [variables_of_depth_le behind, variables_of_depth_le (by omega)]

end Extend

end FunctionScript.Environment
