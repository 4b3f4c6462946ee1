import Mathlib.Data.Set.Card
import Mathlib.Logic.Relation
import FunctionScript.Function

namespace FunctionScript.CallGraph

/-!
# Call graphs

A table of functions spans a graph: a composite function has an edge to each bound
name that one of its commands calls. Where no cycle is reachable, every edge leads
to a name from which fewer composite functions are reachable.
-/

open Relation

/-- The composite function of one name has a command whose target is the other, which is bound. -/
def Calls
    (functions : Table Function)
    (caller callee : String) :
    Prop :=
  ∃ body command,
    functions[caller]? = some (.composite body) ∧
      command ∈ body.commands ∧
      command.target = callee ∧
      callee ∈ functions

/-- One name is reached from another over any number of edges. -/
def Reachable
    (functions : Table Function) :
    String →
    String →
    Prop :=
  ReflTransGen (Calls functions)

/-- No name that is reached lies on a cycle. -/
def CycleFree
    (functions : Table Function)
    (start : String) :
    Prop :=
  ∀ name, Reachable functions start name → ¬TransGen (Calls functions) name name

/-- Every target of a composite function that is reached is bound. -/
def TargetsBound
    (functions : Table Function)
    (start : String) :
    Prop :=
  ∀ name body command,
    Reachable functions start name →
      functions[name]? = some (.composite body) →
        command ∈ body.commands →
          command.target ∈ functions

/-- The names of composite functions that are reached, the start included if it is one. -/
def composites
    (functions : Table Function)
    (start : String) :
    Set String :=
  { name |
    Reachable functions start name ∧
      ∃ body, functions[name]? = some (.composite body) }

variable
  {functions : Table Function}
  {start caller callee : String}

/-- A command of a composite function is an edge if its target is found. -/
theorem Calls.of_member
    {body : Composite}
    {command : Command}
    {function : Function}
    (isBody : functions[caller]? = some (.composite body))
    (member : command ∈ body.commands)
    (found : functions[command.target]? = some function) :
    Calls functions caller command.target := by
  refine ⟨body, command, isBody, member, rfl, ?_⟩
  rw [Std.ExtTreeMap.mem_iff_isSome_getElem?, found]
  rfl

/-- Only finitely many composite functions are reached. -/
theorem finite_composites :
    (composites functions start).Finite := by
  apply (List.finite_toSet functions.keys).subset
  rintro name ⟨_, body, bound⟩
  have member : name ∈ functions := by
    rw [Std.ExtTreeMap.mem_iff_isSome_getElem?, bound]
    rfl
  simpa [Std.ExtTreeMap.mem_keys] using member

/-- A composite function reaches itself at least. -/
theorem ncard_composites_pos
    {body : Composite}
    (isBody : functions[start]? = some (.composite body)) :
    0 < (composites functions start).ncard :=
  (Set.ncard_pos finite_composites).mpr ⟨start, .refl, body, isBody⟩

/-- What is reached from a name that is reached lies on no cycle either. -/
theorem CycleFree.of_calls
    (cycleFree : CycleFree functions caller)
    (calls : Calls functions caller callee) :
    CycleFree functions callee :=
  fun name reached => cycleFree name (.head calls reached)

/-- A callee reaches fewer composite functions than its caller, if that is on no cycle. -/
theorem ncard_composites_lt
    (cycleFree : CycleFree functions caller)
    (calls : Calls functions caller callee) :
    (composites functions callee).ncard < (composites functions caller).ncard := by
  apply Set.ncard_lt_ncard ?_ finite_composites
  obtain ⟨body, command, bound, member, target, calleeBound⟩ := calls
  have calls : Calls functions caller callee :=
    ⟨body, command, bound, member, target, calleeBound⟩
  refine Set.ssubset_iff_exists.mpr ⟨?_, caller, ⟨.refl, body, bound⟩, ?_⟩
  · rintro name ⟨reached, isComposite⟩
    exact ⟨.head calls reached, isComposite⟩
  · rintro ⟨back, _⟩
    exact cycleFree caller .refl (TransGen.head' calls back)

end FunctionScript.CallGraph
