import Mathlib.Logic.Relation
import FunctionScript.Proofs.Effects
import FunctionScript.Proofs.Locality

namespace FunctionScript

/-!
# Functions that depend on their own frame only

A function whose commands take variables from the caller's own frame only cannot
tell what the frames around it bind, unless it asks whether a variable is bound
there by updating or removing it. It may still assign variables that are bound there:
where such an assignment lands differs from run to run, but always behind the frames
that the function reads.
-/

open Relation

/-- Whether the value is a text or a variable of the caller's own frame. -/
def Argument.Source.isOwn :
    Argument.Source →
    Bool
  | .literal _ => true
  | .param _ => true
  | .ref _ => false

/-- The lists are the same up to a place, and both end there or neither does. -/
inductive Scopes.SameUpTo :
    Nat →
    Scopes →
    Scopes →
    Prop where
  | last
      (scope : Table String)
      {left right : Scopes}
      (endTogether : left = [] ↔ right = []) :
      SameUpTo 0 (scope :: left) (scope :: right)
  | behind
      (scope : Table String)
      {level : Nat}
      {left right : Scopes} :
      SameUpTo level left right →
      SameUpTo (level + 1) (scope :: left) (scope :: right)

namespace Scopes

theorem assign_eq_nil_iff
    {scopes : Scopes}
    {name value : String} :
    scopes.assign name value = [] ↔ scopes = [] := by
  cases scopes with
  | nil => simp [assign, update?, changeNearest?, changeOutermost]
  | cons scope outer =>
      rw [assign_cons]
      split <;> simp

namespace SameUpTo

variable
  {level : Nat}
  {left right : Scopes}

theorem head?
    (same : SameUpTo level left right) :
    left.head? = right.head? := by
  cases same <;> rfl

theorem tail
    (same : SameUpTo (level + 1) left right) :
    SameUpTo level left.tail right.tail := by
  cases same
  assumption

theorem ne_nil
    (same : SameUpTo level left right) :
    left ≠ [] ∧ right ≠ [] := by
  cases same <;> simp

/-- Where an assignment lands may differ behind the place only. -/
theorem assign
    (same : SameUpTo level left right)
    (name value : String) :
    SameUpTo level (left.assign name value) (right.assign name value) := by
  induction same with
  | @last scope left right endTogether =>
      simp only [assign_cons, endTogether]
      split
      · exact .last _ endTogether
      · exact .last _ (by rw [assign_eq_nil_iff, assign_eq_nil_iff, endTogether])
  | @behind scope level left right same inductionHypothesis =>
      obtain ⟨leftNotNil, rightNotNil⟩ := same.ne_nil
      simp only [assign_cons, leftNotNil, rightNotNil, or_false]
      split
      · exact same.behind _
      · exact inductionHypothesis.behind _

/-- Arguments resolve alike if they are texts or variables of the nearest scope. -/
theorem argumentValues
    (same : SameUpTo level left right)
    {command : Command}
    (ownArguments : ∀ argument ∈ command.arguments, argument.source.isOwn) :
    left.argumentValues command = right.argumentValues command := by
  apply List.map_congr_left
  intro argument member
  have isOwn := ownArguments argument member
  cases source : argument.source with
  | literal text => rfl
  | param name => simp only [resolve, value?, same.head?]
  | ref name => simp [source, Argument.Source.isOwn] at isOwn

end SameUpTo

end Scopes

/-- The function has a command that calls the other under its known name. -/
def Function.Calls
    (known : String → Option Function)
    (caller callee : Function) :
    Prop :=
  ∃ body command,
    caller = .composite body ∧
      command ∈ body.commands ∧
      known command.target = some callee

/-- One function is reached from another over any number of calls. -/
def Function.Reaches
    (known : String → Option Function) :
    Function →
    Function →
    Prop :=
  ReflTransGen (Function.Calls known)

/--
Whether a command tells its caller nothing of the frames behind: it takes no variable
from there, and does not ask for one to be updated or removed.
-/
structure Command.IsClosed
    (known : String → Option Function)
    (command : Command) :
    Prop where
  arguments : ∀ argument ∈ command.arguments, argument.source.isOwn
  notUpdate : known command.target ≠ some (.builtin .update)
  notDelete : known command.target ≠ some (.builtin .delete)

/-- Whether all commands of a function, and of the functions that it reaches, are closed. -/
def Composite.IsClosed
    (known : String → Option Function)
    (body : Composite) :
    Prop :=
  ∀ inner,
    Function.Reaches known (.composite body) (.composite inner) →
      ∀ command ∈ inner.commands, command.IsClosed known

/-- Bodies that call each other only are closed if all their commands are. -/
theorem Composite.isClosed_of_bodies
    {known : String → Option Function}
    {body : Composite}
    (bodies : List Composite)
    (member : body ∈ bodies)
    (calls :
      ∀ inner ∈ bodies, ∀ command ∈ inner.commands, ∀ callee,
        known command.target = some (.composite callee) → callee ∈ bodies)
    (closed : ∀ inner ∈ bodies, ∀ command ∈ inner.commands, command.IsClosed known) :
    body.IsClosed known := by
  have reachesBodies
      {function : Function}
      (reached : Function.Reaches known (.composite body) function) :
      ∀ inner, function = .composite inner → inner ∈ bodies := by
    induction reached with
    | refl =>
        intro inner same
        cases same
        exact member
    | tail _ call inductionHypothesis =>
        obtain ⟨caller, command, isCaller, inCaller, found⟩ := call
        intro inner same
        rw [same] at found
        exact calls caller (inductionHypothesis caller isCaller) command inCaller inner
          found
  intro inner reached
  exact closed inner (reachesBodies reached inner rfl)

namespace View

/-- The scopes are the same up to a place, and the sinks are the same. -/
structure SameUpTo
    (level : Nat)
    (left right : View) :
    Prop where
  scopes : Scopes.SameUpTo level left.scopes right.scopes
  sink : left.sink = right.sink

/-- What a closed function may call: what it reaches, no update or removal being among it. -/
def ReachedBy
    (known : String → Option Function)
    (body : Composite)
    (function : Function) :
    Prop :=
  Function.Reaches known (.composite body) function ∧
    function ≠ .builtin .update ∧
    function ≠ .builtin .delete

/-- A builtin function that neither updates nor removes a variable has the same outcome. -/
theorem SameUpTo.execute
    {level : Nat}
    {left right : View}
    {builtin : Builtin}
    (same : SameUpTo level left right)
    (notUpdate : builtin ≠ .update)
    (notDelete : builtin ≠ .delete) :
    (left.execute builtin).1 = (right.execute builtin).1 ∧
      SameUpTo level (left.execute builtin).2 (right.execute builtin).2 := by
  have sameScope : left.scopes.headD ∅ = right.scopes.headD ∅ := by
    simp only [List.headD_eq_head?_getD, same.scopes.head?]
  simp only [View.execute, sameScope]
  cases settled : builtin.effectOf (right.scopes.headD ∅) with
  | error failure => exact ⟨rfl, same⟩
  | ok effect =>
      have belongs := Builtin.belongsTo_of_effect settled
      cases effect with
      | assign name value => exact ⟨rfl, same.scopes.assign name value, same.sink⟩
      | update name value => exact absurd belongs notUpdate
      | delete name => exact absurd belongs notDelete
      | write line =>
          simp only [View.perform, same.sink]
          exact ⟨trivial, same.scopes, rfl⟩

/-- What a closed function reaches runs in lockstep on views that differ behind its frame. -/
theorem simulation_closed
    {known : String → Option Function}
    {body : Composite}
    (closed : body.IsClosed known) :
    Simulation known SameUpTo fun _ => ReachedBy known body where
  execute := by
    intro level builtin left right ⟨_, notUpdate, notDelete⟩ same
    apply same.execute
    · rintro rfl
      exact notUpdate rfl
    · rintro rfl
      exact notDelete rfl
  enter := by
    intro level inner command left right ⟨reached, _⟩ member same
    have sameValues :=
      same.scopes.argumentValues (closed inner reached command member).arguments
    refine ⟨?_, same.sink⟩
    simp only [enter, sameValues]
    exact same.scopes.behind _
  callee := by
    intro level inner command function ⟨reached, _⟩ member found
    refine ⟨reached.tail ⟨inner, command, rfl, member, found⟩, ?_, ?_⟩
    · rintro rfl
      exact (closed inner reached command member).notUpdate found
    · rintro rfl
      exact (closed inner reached command member).notDelete found
  leave := fun _ _ _ same => ⟨same.scopes.tail, same.sink⟩

end View

namespace Environment

/-- The environments differ at most in the variables of a frame's proper ancestors. -/
structure DifferBehind
    (frame : Nat)
    (first second : Environment) :
    Prop extends SameShape first second where
  own : first.variables frame = second.variables frame
  offChain :
    ∀ place, place ∉ first.chain frame →
      first.variables place = second.variables place

namespace DifferBehind

variable
  {frame : Nat}
  {first second : Environment}

/-- Behind the frame, its scopes may differ in both environments. -/
theorem scopes
    (differ : DifferBehind frame first second)
    (live : first.isLive frame) :
    Scopes.SameUpTo 0 (first.scopes frame) (second.scopes frame) := by
  have secondLive : second.isLive frame := by
    rwa [← differ.toSameShape.isLive]
  have sameOuter : first.outerChain frame = second.outerChain frame := by
    have sameChain := differ.toSameShape.chain frame
    rw [chain_of_isLive live, chain_of_isLive secondLive] at sameChain
    exact (List.cons.inj sameChain).2
  rw [scopes_of_isLive live, scopes_of_isLive secondLive, differ.own, sameOuter]
  exact .last _ (by simp)

/-- Changes along the chain keep the difference behind the frame if its own variables agree. -/
theorem of_changesAlong
    {firstAfter secondAfter : Environment}
    (differ : DifferBehind frame first second)
    (firstChanged : ChangesAlong frame first firstAfter)
    (secondChanged : ChangesAlong frame second secondAfter)
    (own : firstAfter.variables frame = secondAfter.variables frame) :
    DifferBehind frame firstAfter secondAfter where
  toSameShape :=
    (firstChanged.toSameShape.trans differ.toSameShape).trans
      secondChanged.toSameShape.symm
  own := own
  offChain := by
    intro place outsideAfter
    have outside : place ∉ first.chain frame := by
      rwa [firstChanged.toSameShape.chain] at outsideAfter
    have outsideSecond : place ∉ second.chain frame := by
      rwa [differ.toSameShape.chain] at outside
    rw [firstChanged.offChain place outside, secondChanged.offChain place outsideSecond,
      differ.offChain place outside]

end DifferBehind

end Environment

namespace Machine

variable
  {first second : Machine}
  {frame : Nat}
  {body : Composite}

/-- The sinks are the same, and the environments differ behind the frame at most. -/
structure DifferBehind
    (frame : Nat)
    (first second : Machine) :
    Prop where
  environment : Environment.DifferBehind frame first.environment second.environment
  sink : first.sink = second.sink

/--
A closed function depends on nothing that the proper ancestors of its frame bind:
where machines differ there only, it ends alike, and leaves machines that differ there
only. In particular, the variables of its frame are the same again.
-/
theorem call_closed
    (live : first.environment.isLive frame)
    (closed : body.IsClosed (first.known frame))
    (differ : DifferBehind frame first second) :
    EndAlike
      (fun fuel => first.call fuel (.composite body) frame)
      (fun fuel => second.call fuel (.composite body) frame)
      (DifferBehind frame) := by
  have sameShape := differ.environment.toSameShape
  have secondLive : second.environment.isLive frame := by
    rwa [← sameShape.isLive]
  have sameKnown : second.known frame = first.known frame :=
    funext fun name => (sameShape.function? .chain frame name).symm
  have sameViews :
      View.SameUpTo 0 (first.view frame) (second.view frame) :=
    ⟨differ.environment.scopes live, differ.sink⟩
  have admitted : View.ReachedBy (first.known frame) body (.composite body) :=
    ⟨.refl, by simp, by simp⟩
  have lockstep
      (fuel : Nat) :
      View.Run.Related (View.SameUpTo 0)
        (Run.seenFrom frame (first.call fuel (.composite body) frame))
        (Run.seenFrom frame (second.call fuel (.composite body) frame)) := by
    rw [seenFrom_call live, seenFrom_call secondLive, sameKnown]
    exact (View.simulation_closed closed).call fuel admitted sameViews
  have viewsAlike := EndAlike.of_related (fun _ _ _ => call_mono) lockstep
  apply viewsAlike.imp
  intro _ firstAfter _ secondAfter ⟨_, firstRan⟩ ⟨_, secondRan⟩ sameAfter
  have firstChanged := kept_changesAlong.call firstRan
  have secondChanged := kept_changesAlong.call secondRan
  have firstAfterLive : firstAfter.environment.isLive frame := by
    rwa [firstChanged.toSameShape.isLive]
  have secondAfterLive : secondAfter.environment.isLive frame := by
    rwa [secondChanged.toSameShape.isLive]
  have sameOwn := sameAfter.scopes.head?
  simp only [view, Environment.scopes_of_isLive firstAfterLive,
    Environment.scopes_of_isLive secondAfterLive, List.head?_cons,
    Option.some.injEq] at sameOwn
  exact ⟨differ.environment.of_changesAlong firstChanged secondChanged sameOwn,
    sameAfter.sink⟩

/-- A body that assigns a variable and prints it from its own parameter. -/
def labelText : Composite where
  name := "label"
  commands := [
    ⟨"create", [⟨"id", .literal "x"⟩, ⟨"value", .param "text"⟩]⟩,
    ⟨"print", [⟨"value", .param "text"⟩]⟩]

/-- A body that hands its parameter on, and then needs a number. -/
def labelAndAdd : Composite where
  name := "labelled"
  commands := [
    ⟨"label", [⟨"text", .param "p"⟩]⟩,
    ⟨"add", [⟨"id", .literal "p"⟩, ⟨"operand1", .param "p"⟩, ⟨"operand2", .param "x"⟩]⟩]

/-- A root that binds the label, a frame with the given variables, and one above it. -/
def withLabel
    (outer : List (String × String)) :
    Machine where
  environment :=
    ((Environment.initial.overlayRoot
        (Function.builtins.insert "label" (.composite labelText)) ∅).extend
      Environment.root outer).extend 1 [("p", "7")]
  sink := .unlimited
  log := #[]

theorem differBehind_withLabel :
    DifferBehind 2 (withLabel [("x", "seen")]) (withLabel []) where
  environment := by
    have sameShape :
        Environment.SameShape
          (withLabel [("x", "seen")]).environment (withLabel []).environment :=
      ((Environment.SameShape.refl _).extend Environment.root _ _).extend 1 _ _
    have chain : (withLabel [("x", "seen")]).environment.chain 2 = [2, 1, 0] := by
      decide +kernel
    refine ⟨sameShape, by decide +kernel, ?_⟩
    intro place outside
    simp only [chain, List.mem_cons, List.not_mem_nil, or_false, not_or] at outside
    have dead : 3 ≤ place := by omega
    rw [Environment.variables_of_depth_le dead, Environment.variables_of_depth_le dead]
  sink := rfl

/-- The body and the label are all that is reached, and neither looks behind its frame. -/
theorem labelAndAdd_isClosed :
    labelAndAdd.IsClosed ((withLabel [("x", "seen")]).known 2) := by
  have label :
      (withLabel [("x", "seen")]).known 2 "label" = some (.composite labelText) := by
    decide +kernel
  have create : (withLabel [("x", "seen")]).known 2 "create" = some (.builtin .create) := by
    decide +kernel
  have print : (withLabel [("x", "seen")]).known 2 "print" = some (.builtin .print) := by
    decide +kernel
  have add :
      (withLabel [("x", "seen")]).known 2 "add" = some (.builtin (.arithmetic .add)) := by
    decide +kernel
  apply Composite.isClosed_of_bodies [labelAndAdd, labelText] (by simp)
  · simp [labelAndAdd, labelText, label, create, print, add]
  · intro inner member command called
    constructor <;> revert inner command
    · decide +kernel
    · simp [labelAndAdd, labelText, label, create, print, add]
    · simp [labelAndAdd, labelText, label, create, print, add]

/--
The variable is assigned in the frame in between where that binds it, and in the root
where it does not. The body runs alike, up to failing to see the variable.
-/
theorem labelAndAdd_closed :
    (withLabel [("x", "seen")]).environment.isLive 2 ∧
      labelAndAdd.IsClosed ((withLabel [("x", "seen")]).known 2) ∧
      DifferBehind 2 (withLabel [("x", "seen")]) (withLabel []) ∧
      ∃ outcome firstAfter secondAfter,
        Finishes
            (fun fuel =>
              (withLabel [("x", "seen")]).call fuel (.composite labelAndAdd) 2)
            outcome firstAfter ∧
          Finishes (fun fuel => (withLabel []).call fuel (.composite labelAndAdd) 2)
            outcome secondAfter ∧
          outcome ≠ .ok () ∧
          firstAfter.environment.value? .own 1 "x" = some "7" ∧
          DifferBehind 2 firstAfter secondAfter := by
  have fails :
      ((withLabel [("x", "seen")]).call 2 (.composite labelAndAdd) 2).toOption.map
          (fun ended => (ended.1.isOk, ended.2.environment.value? .own 1 "x")) =
        some (false, some "7") := by
    decide +kernel
  obtain ⟨outcome, firstAfter, ran, observed⟩ := exists_of_observed fails
  obtain ⟨isNotOk, assigned⟩ := Prod.mk.inj observed
  have firstFinishes :
      Finishes
        (fun fuel => (withLabel [("x", "seen")]).call fuel (.composite labelAndAdd) 2)
        outcome firstAfter :=
    ⟨2, ran⟩
  have alike := call_closed rfl labelAndAdd_isClosed differBehind_withLabel
  obtain ⟨_, secondAfter, secondFinishes⟩ := alike.returns.mp ⟨_, _, firstFinishes⟩
  obtain ⟨rfl, differAfter⟩ := alike.agree _ _ _ _ firstFinishes secondFinishes
  refine ⟨rfl, labelAndAdd_isClosed, differBehind_withLabel, outcome, firstAfter,
    secondAfter, firstFinishes, secondFinishes, ?_, assigned, differAfter⟩
  rintro rfl
  cases isNotOk

end Machine

end FunctionScript
