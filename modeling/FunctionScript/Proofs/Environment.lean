import FunctionScript.Environment.Bindings

namespace FunctionScript.Environment

/-!
# Observing an environment

An environment shows its depth and, for each place, a parent, variables and
functions; environments that show the same are equal. Every operation is
described here by what it does to these four, and the chain of a frame by the
links it follows, so that later modules never look into the array of frames.
-/

/-- Change the variables of the frame at a place, if one stands there. -/
def changeVariables
    (environment : Environment)
    (frame : Nat)
    (change : Table String → Table String) :
    Environment :=
  environment.modifyFrame frame fun found =>
    { found with «variables» := change found.variables }

theorem defineVariable_eq_changeVariables
    (environment : Environment)
    (frame : Nat)
    (name value : String) :
    environment.defineVariable frame name value =
      environment.changeVariables frame fun table => table.insert name value :=
  rfl

theorem eraseVariable_eq_changeVariables
    (environment : Environment)
    (frame : Nat)
    (name : String) :
    environment.eraseVariable frame name =
      environment.changeVariables frame fun table => table.erase name :=
  rfl

theorem isLive_iff
    {environment : Environment}
    {frame : Nat} :
    environment.isLive frame ↔ frame < environment.depth := by
  simp [isLive]

/-- Environments that show the same are equal. -/
theorem ext_of_observations
    {first second : Environment}
    (depth : first.depth = second.depth)
    (parents : ∀ place, first.parent? place = second.parent? place)
    (values : ∀ place, first.variables place = second.variables place)
    (functions : ∀ place, first.functions place = second.functions place) :
    first = second := by
  obtain ⟨firstFrames⟩ := first
  obtain ⟨secondFrames⟩ := second
  simp only [Environment.depth] at depth
  simp only [mk.injEq]
  apply Array.ext depth
  intro place inFirst inSecond
  have sameParent := parents place
  have sameVariables := values place
  have sameFunctions := functions place
  simp only [parent?, Environment.variables, Environment.functions,
    Array.getElem?_eq_getElem inFirst, Array.getElem?_eq_getElem inSecond,
    Option.bind_some] at sameParent sameVariables sameFunctions
  cases firstFrame : firstFrames[place]
  cases secondFrame : secondFrames[place]
  simp_all

theorem depth_modifyFrame
    (environment : Environment)
    (frame : Nat)
    (change : Frame → Frame) :
    (environment.modifyFrame frame change).depth = environment.depth := by
  simp [modifyFrame, depth]

/-- A change of a frame that keeps its parent keeps every link. -/
theorem parent?_modifyFrame
    (environment : Environment)
    {frame : Nat}
    {change : Frame → Frame}
    (place : Nat)
    (keepsParent : ∀ found, (change found).parent = found.parent) :
    (environment.modifyFrame frame change).parent? place =
      environment.parent? place := by
  by_cases same : frame = place
  · subst same
    cases found : environment.frames[frame]? <;>
      simp [modifyFrame, parent?, Array.getElem?_modify, found, keepsParent]
  · simp [modifyFrame, parent?, Array.getElem?_modify, same]

section ChangeVariables

variable
  (environment : Environment)
  (frame place : Nat)
  (change : Table String → Table String)

@[simp] theorem depth_changeVariables :
    (environment.changeVariables frame change).depth = environment.depth :=
  depth_modifyFrame environment frame _

@[simp] theorem parent?_changeVariables :
    (environment.changeVariables frame change).parent? place =
      environment.parent? place :=
  parent?_modifyFrame environment place fun _ => rfl

@[simp] theorem functions_changeVariables :
    (environment.changeVariables frame change).functions place =
      environment.functions place := by
  by_cases same : frame = place
  · subst same
    cases found : environment.frames[frame]? <;>
      simp [changeVariables, modifyFrame, functions, Array.getElem?_modify, found]
  · simp [changeVariables, modifyFrame, functions, Array.getElem?_modify, same]

theorem variables_changeVariables
    (live : environment.isLive frame) :
    (environment.changeVariables frame change).variables place =
      if place = frame then
        change (environment.variables frame)
      else
        environment.variables place := by
  have inBounds : frame < environment.frames.size := isLive_iff.mp live
  by_cases same : place = frame
  · subst same
    simp [changeVariables, modifyFrame, Environment.variables, Array.getElem?_modify,
      Array.getElem?_eq_getElem inBounds]
  · simp [changeVariables, modifyFrame, Environment.variables, Array.getElem?_modify,
      same, Ne.symm same]

end ChangeVariables

theorem modifyFrame_id
    (environment : Environment)
    (frame : Nat) :
    environment.modifyFrame frame (fun found => found) = environment := by
  obtain ⟨frames⟩ := environment
  simp only [modifyFrame, mk.injEq]
  apply Array.ext_getElem?
  intro place
  by_cases same : frame = place <;>
    simp [Array.getElem?_modify, same]

/-- Changing a frame twice is changing it once. -/
theorem modifyFrame_modifyFrame
    (environment : Environment)
    (frame : Nat)
    (first second : Frame → Frame) :
    (environment.modifyFrame frame first).modifyFrame frame second =
      environment.modifyFrame frame fun found => second (first found) := by
  simp only [modifyFrame, mk.injEq]
  apply Array.ext_getElem?
  intro place
  by_cases same : frame = place <;>
    simp [Array.getElem?_modify, same, Function.comp_def]

@[simp] theorem changeVariables_id
    (environment : Environment)
    (frame : Nat) :
    (environment.changeVariables frame fun table => table) = environment :=
  modifyFrame_id environment frame

theorem changeVariables_changeVariables
    (environment : Environment)
    (frame : Nat)
    (first second : Table String → Table String) :
    (environment.changeVariables frame first).changeVariables frame second =
      environment.changeVariables frame fun table => second (first table) :=
  modifyFrame_modifyFrame environment frame _ _

/-- Binding several variables changes the variables of the frame once. -/
theorem bindAll_eq_changeVariables
    (environment : Environment)
    (frame : Nat)
    (bindings : List (String × String)) :
    environment.bindAll frame bindings =
      environment.changeVariables frame fun table =>
        bindings.foldl (fun table entry => table.insert entry.1 entry.2) table := by
  induction bindings generalizing environment with
  | nil =>
      simp [bindAll]
  | cons binding rest inductionHypothesis =>
      have restBound :=
        inductionHypothesis (environment.defineVariable frame binding.1 binding.2)
      rw [defineVariable_eq_changeVariables,
        changeVariables_changeVariables] at restBound
      exact restBound

section Push

variable
  (environment : Environment)
  (parent place : Nat)

@[simp] theorem depth_push :
    (environment.push parent).depth = environment.depth + 1 := by
  simp [push, depth]

theorem parent?_push :
    (environment.push parent).parent? place =
      if place = environment.depth then
        some parent
      else
        environment.parent? place := by
  by_cases atEnd : place = environment.frames.size <;>
    simp [push, parent?, Array.getElem?_push, depth, atEnd, Frame.empty]

@[simp] theorem variables_push :
    (environment.push parent).variables place = environment.variables place := by
  by_cases atEnd : place = environment.frames.size <;>
    simp [push, Environment.variables, Array.getElem?_push, atEnd, Frame.empty]

@[simp] theorem functions_push :
    (environment.push parent).functions place = environment.functions place := by
  by_cases atEnd : place = environment.frames.size <;>
    simp [push, functions, Array.getElem?_push, atEnd, Frame.empty]

end Push

/-- What a frame binds itself is what stands in its table. -/
theorem value?_own
    (environment : Environment)
    (frame : Nat) :
    environment.value? .own frame = fun name => (environment.variables frame)[name]? := by
  funext name
  simp [value?, Reach.frames]

theorem variables_of_depth_le
    {environment : Environment}
    {place : Nat}
    (dead : environment.depth ≤ place) :
    environment.variables place = ∅ := by
  have outside : environment.frames[place]? = none :=
    Array.getElem?_eq_none dead
  simp [Environment.variables, outside]

theorem functions_of_depth_le
    {environment : Environment}
    {place : Nat}
    (dead : environment.depth ≤ place) :
    environment.functions place = ∅ := by
  have outside : environment.frames[place]? = none :=
    Array.getElem?_eq_none dead
  simp [functions, outside]

/-- Dropping a frame that is not live drops nothing. -/
theorem pop_of_depth_le
    {environment : Environment}
    {frame : Nat}
    (behind : environment.depth ≤ frame) :
    environment.pop frame = environment := by
  obtain ⟨frames⟩ := environment
  simp only [depth] at behind
  simp [pop, Array.extract_eq_self_of_le behind]

section Pop

variable
  {environment : Environment}
  {frame : Nat}
  (notRoot : frame ≠ root)

include notRoot

theorem depth_pop
    (below : frame ≤ environment.depth) :
    (environment.pop frame).depth = frame := by
  simp only [depth] at below
  simp [pop, notRoot, depth, below]

/-- A frame before the dropped one stays as it is. -/
theorem frames_pop
    {place : Nat}
    (before : place < frame) :
    (environment.pop frame).frames[place]? = environment.frames[place]? := by
  simp [pop, notRoot, Array.getElem?_extract]
  omega

theorem parent?_pop
    {place : Nat}
    (before : place < frame) :
    (environment.pop frame).parent? place = environment.parent? place := by
  simp [parent?, frames_pop notRoot before]

theorem variables_pop
    {place : Nat}
    (before : place < frame) :
    (environment.pop frame).variables place = environment.variables place := by
  simp [Environment.variables, frames_pop notRoot before]

theorem functions_pop
    {place : Nat}
    (before : place < frame) :
    (environment.pop frame).functions place = environment.functions place := by
  simp [functions, frames_pop notRoot before]

end Pop

theorem parent?_of_depth_le
    {environment : Environment}
    {place : Nat}
    (dead : environment.depth ≤ place) :
    environment.parent? place = none := by
  have outside : environment.frames[place]? = none :=
    Array.getElem?_eq_none dead
  simp [parent?, outside]

section Overlay

variable
  (environment : Environment)
  (functions : Table Function)
  (values : Table String)
  (place : Nat)

@[simp] theorem depth_overlayRoot :
    (environment.overlayRoot functions values).depth = environment.depth :=
  depth_modifyFrame environment root _

@[simp] theorem parent?_overlayRoot :
    (environment.overlayRoot functions values).parent? place =
      environment.parent? place :=
  parent?_modifyFrame environment place fun _ => rfl

variable {environment}

/-- The overlay's functions stand over those of the root and of no other frame. -/
theorem functions_overlayRoot
    (live : environment.isLive root) :
    (environment.overlayRoot functions values).functions place =
      if place = root then
        environment.functions root ∪ functions
      else
        environment.functions place := by
  have inBounds : root < environment.frames.size := isLive_iff.mp live
  by_cases same : place = root
  · subst same
    simp [overlayRoot, modifyFrame, Environment.functions, Array.getElem?_modify,
      Array.getElem?_eq_getElem inBounds]
  · simp [overlayRoot, modifyFrame, Environment.functions, Array.getElem?_modify,
      same, Ne.symm same]

theorem variables_overlayRoot
    (live : environment.isLive root) :
    (environment.overlayRoot functions values).variables place =
      if place = root then
        environment.variables root ∪ values
      else
        environment.variables place := by
  have inBounds : root < environment.frames.size := isLive_iff.mp live
  by_cases same : place = root
  · subst same
    simp [overlayRoot, modifyFrame, Environment.variables, Array.getElem?_modify,
      Array.getElem?_eq_getElem inBounds]
  · simp [overlayRoot, modifyFrame, Environment.variables, Array.getElem?_modify,
      same, Ne.symm same]

end Overlay

end FunctionScript.Environment
