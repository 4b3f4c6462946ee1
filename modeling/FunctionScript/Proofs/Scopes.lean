import FunctionScript.Proofs.Shape

namespace FunctionScript

/-!
# Scopes

Seen from a frame, variables stand in a list of tables: its own first, the root's
last. Lookups, assignments, updates and removals are described here on such a
list alone, and each is shown to be what the environment does along the chain of
the frame. The frames' places do not matter for any of them.
-/

/-- The variables of the frames on a chain, nearest first. -/
abbrev Scopes : Type :=
  List (Table String)

namespace Scopes

/-- The value of a variable. -/
def value?
    (scopes : Scopes)
    (reach : Environment.Reach)
    (name : String) :
    Option String :=
  match reach with
  | .own => scopes.head?.bind fun scope => scope[name]?
  | .chain => scopes.findSome? fun scope => scope[name]?

/-- Change the nearest scope that binds a name; nothing if none does. -/
def changeNearest?
    (name : String)
    (change : Table String → Table String) :
    Scopes →
    Option Scopes
  | [] => none
  | scope :: outer =>
      if scope.contains name then
        some (change scope :: outer)
      else
        (changeNearest? name change outer).map (scope :: ·)

/-- Change the outermost scope. -/
def changeOutermost
    (change : Table String → Table String) :
    Scopes →
    Scopes
  | [] => []
  | [scope] => [change scope]
  | scope :: next :: outer => scope :: changeOutermost change (next :: outer)

/-- Assign a variable where it is bound; nothing if no scope binds it. -/
def update?
    (scopes : Scopes)
    (name value : String) :
    Option Scopes :=
  scopes.changeNearest? name fun scope => scope.insert name value

/-- Assign a variable where it is bound, or bind it in the outermost scope. -/
def assign
    (scopes : Scopes)
    (name value : String) :
    Scopes :=
  (scopes.update? name value).getD
    (scopes.changeOutermost fun scope => scope.insert name value)

/-- An assignment stays in a scope that binds the name or is the last, else it goes on behind it. -/
theorem assign_cons
    (scope : Table String)
    (outer : Scopes)
    (name value : String) :
    Scopes.assign (scope :: outer) name value =
      if scope.contains name ∨ outer = [] then
        scope.insert name value :: outer
      else
        scope :: outer.assign name value := by
  by_cases binds : scope.contains name
  · simp [assign, update?, changeNearest?, binds]
  · cases outer with
    | nil => simp [assign, update?, changeNearest?, changeOutermost, binds]
    | cons next rest =>
        simp only [assign, update?, changeNearest?, changeOutermost, binds,
          Bool.false_eq_true, reduceCtorEq, or_self, ↓reduceIte]
        generalize changeNearest? name _ rest = restChanged
        by_cases nextBinds : next.contains name <;> cases restChanged <;>
          simp [nextBinds]

/-- Remove the nearest binding of a variable; nothing if no scope binds it. -/
def delete?
    (scopes : Scopes)
    (name : String) :
    Option Scopes :=
  scopes.changeNearest? name fun scope => scope.erase name

def resolve
    (scopes : Scopes) :
    Argument.Source →
    String
  | .literal text => text
  | .param name => (scopes.value? .own name).getD Environment.undefinedText
  | .ref name => (scopes.value? .chain name).getD Environment.undefinedText

def argumentValues
    (scopes : Scopes)
    (command : Command) :
    List (String × String) :=
  command.arguments.map fun argument =>
    (argument.name, scopes.resolve argument.source)

/-- On the variables of distinct places, the nearest change is made at the first binding place. -/
theorem changeNearest?_map
    {places : List Nat}
    (distinct : places.Nodup)
    (tables : Nat → Table String)
    (name : String)
    (change : Table String → Table String) :
    changeNearest? name change (places.map tables) =
      (places.find? fun place => (tables place).contains name).map
        fun target => places.map fun place =>
          if place = target then change (tables target) else tables place := by
  induction places with
  | nil => rfl
  | cons first rest inductionHypothesis =>
      obtain ⟨fresh, restDistinct⟩ := List.nodup_cons.mp distinct
      simp only [List.map_cons, changeNearest?, List.find?_cons]
      by_cases binds : (tables first).contains name
      · have restSame :
            (rest.map fun place =>
              if place = first then change (tables first) else tables place) =
              rest.map tables := by
          apply List.map_congr_left
          intro place member
          have different : place ≠ first := by
            rintro rfl
            exact fresh member
          simp [different]
        simp [binds, restSame]
      · simp only [binds, Bool.false_eq_true, ↓reduceIte,
          inductionHypothesis restDistinct]
        cases found : rest.find? fun place => (tables place).contains name with
        | none => rfl
        | some target =>
            have different : first ≠ target := by
              rintro rfl
              exact fresh (List.mem_of_find?_eq_some found)
            simp [different]

/-- On the variables of distinct places, the outermost change is made at the last place. -/
theorem changeOutermost_map
    {places : List Nat}
    (distinct : places.Nodup)
    {target : Nat}
    (last : places.getLast? = some target)
    (tables : Nat → Table String)
    (change : Table String → Table String) :
    changeOutermost change (places.map tables) =
      places.map fun place =>
        if place = target then change (tables target) else tables place := by
  induction places with
  | nil => simp at last
  | cons first rest inductionHypothesis =>
      cases rest with
      | nil =>
          simp only [List.getLast?_singleton, Option.some.injEq] at last
          simp [changeOutermost, last]
      | cons next outer =>
          obtain ⟨fresh, restDistinct⟩ := List.nodup_cons.mp distinct
          have restLast : (next :: outer).getLast? = some target := by
            simpa [List.getLast?_cons_cons] using last
          have different : first ≠ target := by
            rintro rfl
            exact fresh (List.mem_of_getLast? restLast)
          have restChanged := inductionHypothesis restDistinct restLast
          simp only [List.map_cons, changeOutermost] at restChanged ⊢
          simp [restChanged, different]

end Scopes

namespace Environment

/-- The scopes that a frame sees. -/
def scopes
    (environment : Environment)
    (frame : Nat) :
    Scopes :=
  (environment.chain frame).map environment.variables

/-- The nearest scope that a live frame sees is its own. -/
theorem scopes_of_isLive
    {environment : Environment}
    {frame : Nat}
    (live : environment.isLive frame) :
    environment.scopes frame =
      environment.variables frame ::
        (environment.outerChain frame).map environment.variables := by
  simp [scopes, chain_of_isLive live]

theorem value?_eq
    (environment : Environment)
    (reach : Reach)
    (frame : Nat)
    (name : String) :
    environment.value? reach frame name =
      (environment.scopes frame).value? reach name := by
  cases reach with
  | chain =>
      simp [value?, Reach.frames, Scopes.value?, scopes, List.findSome?_map,
        Function.comp_def]
  | own =>
      by_cases live : environment.isLive frame
      · simp [value?, Reach.frames, Scopes.value?, scopes_of_isLive live]
      · have nothing : environment.variables frame = ∅ :=
          variables_of_depth_le (Nat.le_of_not_lt fun below => live (isLive_iff.mpr below))
        simp [value?, Reach.frames, Scopes.value?, scopes, chain_of_not_isLive live,
          nothing]

theorem resolve_eq
    (environment : Environment)
    (caller : Nat)
    (source : Argument.Source) :
    environment.resolve caller source =
      (environment.scopes caller).resolve source := by
  cases source <;>
    simp [resolve, Scopes.resolve, value?_eq]

/-- The values a command binds are those in the scopes of the caller. -/
theorem argumentValues_eq
    (environment : Environment)
    (caller : Nat)
    (command : Command) :
    environment.argumentValues caller command =
      (environment.scopes caller).argumentValues command := by
  simp [argumentValues, Scopes.argumentValues, resolve_eq]

section Changes

variable
  {environment : Environment}
  {frame : Nat}

/-- Changing variables on the chain changes one of the scopes. -/
theorem scopes_changeVariables
    {target : Nat}
    (onChain : target ∈ environment.chain frame)
    (change : Table String → Table String) :
    (environment.changeVariables target change).scopes frame =
      (environment.chain frame).map fun place =>
        if place = target then
          change (environment.variables target)
        else
          environment.variables place := by
  simp only [scopes,
    (sameShape_changeVariables environment target change).chain frame]
  apply List.map_congr_left
  intro place _
  rw [variables_changeVariables environment target place change
    (isLive_of_mem_chain onChain)]

theorem mem_chain_of_bindingFrame?
    {name : String}
    {target : Nat}
    (found : environment.bindingFrame? frame name = some target) :
    target ∈ environment.chain frame :=
  List.mem_of_find?_eq_some found

/-- A variable has no nearest binding exactly if no frame of the chain binds it. -/
theorem bindingFrame?_eq_none_iff
    {name : String} :
    environment.bindingFrame? frame name = none ↔
      ∀ place ∈ environment.chain frame, name ∉ environment.variables place := by
  simp [bindingFrame?, List.find?_eq_none]

/-- Changing variables in the frame that binds a name changes the nearest scope that binds it. -/
theorem scopes_changeNearest?
    (name : String)
    (change : Table String → Table String) :
    (environment.bindingFrame? frame name).map
        (fun target => (environment.changeVariables target change).scopes frame) =
      (environment.scopes frame).changeNearest? name change := by
  rw [scopes, Scopes.changeNearest?_map (nodup_chain environment frame)]
  simp only [bindingFrame?]
  cases found :
      (environment.chain frame).find? fun place =>
        (environment.variables place).contains name with
  | none => rfl
  | some target =>
      simp [scopes_changeVariables (mem_chain_of_bindingFrame? found)]

/-- An update goes to the nearest scope that binds the variable. -/
theorem scopes_update?
    (name value : String) :
    (environment.update? frame name value).map (fun after => after.scopes frame) =
      (environment.scopes frame).update? name value := by
  rw [Scopes.update?, ← scopes_changeNearest?, update?, Option.map_map]
  rfl

theorem scopes_delete?
    (name : String) :
    (environment.delete? frame name).map (fun after => after.scopes frame) =
      (environment.scopes frame).delete? name := by
  rw [Scopes.delete?, ← scopes_changeNearest?, delete?, Option.map_map]
  rfl

/-- Changing variables in the last frame of the chain changes the outermost scope. -/
theorem scopes_changeOutermost
    {outermost : Nat}
    (last : (environment.chain frame).getLast? = some outermost)
    (change : Table String → Table String) :
    (environment.changeVariables outermost change).scopes frame =
      (environment.scopes frame).changeOutermost change := by
  rw [scopes_changeVariables (List.mem_of_getLast? last), scopes,
    Scopes.changeOutermost_map (nodup_chain environment frame) last]

theorem exists_getLast?_chain
    (live : environment.isLive frame) :
    ∃ target, (environment.chain frame).getLast? = some target := by
  rw [chain_of_isLive live]
  exact ⟨_, List.getLast?_eq_some_getLast (by simp)⟩

theorem assignmentFrame_mem_chain
    (live : environment.isLive frame)
    (name : String) :
    environment.assignmentFrame frame name ∈ environment.chain frame := by
  obtain ⟨target, last⟩ := exists_getLast?_chain live
  rw [assignmentFrame, last]
  cases found : environment.bindingFrame? frame name with
  | none => exact List.mem_of_getLast? last
  | some place => exact mem_chain_of_bindingFrame? found

/-- An assignment goes to the nearest scope that binds the variable, or to the outermost. -/
theorem scopes_assign
    (live : environment.isLive frame)
    (name value : String) :
    (environment.assign frame name value).scopes frame =
      (environment.scopes frame).assign name value := by
  obtain ⟨outermost, last⟩ := exists_getLast?_chain live
  have updated :
      (environment.update? frame name value).map (fun after => after.scopes frame) =
        (environment.scopes frame).update? name value :=
    scopes_update? name value
  rw [Scopes.assign, ← updated, update?, assign, assignmentFrame, last]
  cases found : environment.bindingFrame? frame name with
  | none =>
      simp only [Option.map_none, Option.getD_none, Option.getD_some,
        defineVariable_eq_changeVariables, scopes_changeOutermost last]
  | some target => rfl

end Changes

/-- The fresh frame of a call sees its arguments before what the caller sees. -/
theorem scopes_extend
    {environment : Environment}
    {caller : Nat}
    (live : environment.isLive caller)
    (values : List (String × String)) :
    (environment.extend caller values).scopes environment.depth =
      Table.ofEntries values :: environment.scopes caller := by
  have callerBefore : caller < environment.depth := isLive_iff.mp live
  simp only [scopes, chain_extend values live, List.map_cons, variables_extend,
    ↓reduceIte]
  congr 1
  apply List.map_congr_left
  intro place member
  have before : place ≠ environment.depth :=
    Nat.ne_of_lt (Nat.lt_of_le_of_lt (le_of_mem_chain member) callerBefore)
  simp [variables_extend, before]

/-- Dropping the fresh frame of a call leaves what was seen behind it. -/
theorem ChangesAlong.scopes_leave
    {environment after : Environment}
    {caller : Nat}
    {values : List (String × String)}
    (live : environment.isLive caller)
    (changed :
      ChangesAlong environment.depth (environment.extend caller values) after) :
    (after.pop environment.depth).scopes caller =
      (after.scopes environment.depth).tail := by
  have callerBefore : caller < environment.depth := isLive_iff.mp live
  have notRoot : environment.depth ≠ root := by
    simp only [root]
    omega
  have leftShape := (changed.leave values live).toSameShape
  simp only [scopes, leftShape.chain, changed.toSameShape.chain,
    chain_extend values live, List.map_cons, List.tail_cons]
  apply List.map_congr_left
  intro place member
  exact variables_pop notRoot
    (Nat.lt_of_le_of_lt (le_of_mem_chain member) callerBefore)

/-- Changes along one chain that lead to the same scopes lead to the same environment. -/
theorem ChangesAlong.eq_of_scopes
    {frame : Nat}
    {before first second : Environment}
    (firstChanged : ChangesAlong frame before first)
    (secondChanged : ChangesAlong frame before second)
    (same : first.scopes frame = second.scopes frame) :
    first = second := by
  have sameShape := firstChanged.toSameShape.trans secondChanged.toSameShape.symm
  refine ext_of_observations sameShape.depth sameShape.parents ?_ sameShape.functions
  intro place
  by_cases onChain : place ∈ before.chain frame
  · simp only [scopes, firstChanged.toSameShape.chain,
      secondChanged.toSameShape.chain] at same
    exact List.map_inj_left.mp same place onChain
  · rw [firstChanged.offChain place onChain, secondChanged.offChain place onChain]

end Environment

end FunctionScript
