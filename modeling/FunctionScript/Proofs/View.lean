import FunctionScript.Proofs.Effects
import FunctionScript.Proofs.Evaluation
import FunctionScript.Proofs.Sinks

namespace FunctionScript

/-!
# Evaluation as a frame sees it

A function that runs in a frame sees the scopes of the frame's chain, the
functions known there, and the sink. Evaluation is described here on these alone:
a dispatch puts a scope in front and takes it away again, and the known functions
never change. A run on a machine, seen from a live frame, is the run on what the
frame sees; where frames stand, and which others there are, makes no difference.
-/

/-- The scopes of a chain, and the sink. -/
structure View where
  scopes : Scopes
  sink : Sink

/-- What a frame sees of a machine. -/
def Machine.view
    (machine : Machine)
    (frame : Nat) :
    View where
  scopes := machine.environment.scopes frame
  sink := machine.sink

/-- The environment of a root frame with variables alone. -/
def Environment.ofVariables
    (values : Table String) :
    Environment where
  frames := #[{ Frame.empty none with «variables» := values }]

/-- The effect that a builtin function settles on when its frame has the variables. -/
def Builtin.effectOf
    (builtin : Builtin)
    (values : Table String) :
    Except Failure Effect :=
  builtin.effect (.ofVariables values) Environment.root

theorem Environment.variables_ofVariables
    (values : Table String) :
    (ofVariables values).variables root = values :=
  rfl

namespace Builtin

/-- The effect of a builtin function depends on the variables of its own frame only. -/
theorem effect_eq_effectOf
    (builtin : Builtin)
    (environment : Environment)
    (frame : Nat) :
    builtin.effect environment frame =
      builtin.effectOf (environment.variables frame) := by
  have sameRequired :
      builtin.required environment frame =
        builtin.required
          (.ofVariables (environment.variables frame)) Environment.root := by
    funext sought
    simp only [required, Environment.value?_own, Environment.variables_ofVariables]
  simp only [effectOf, effect, sameRequired]

variable
  {builtin : Builtin}
  {values : Table String}

theorem effectOf_eq_ok_iff
    {effect : Effect} :
    builtin.effectOf values = .ok effect ↔
      Asks (fun name => values[name]?) builtin effect := by
  rw [effectOf, effect_eq_ok_iff, Environment.value?_own,
    Environment.variables_ofVariables]

theorem effectOf_eq_error_iff
    {failure : Failure} :
    builtin.effectOf values = .error failure ↔
      builtin.inputFault? (fun name => values[name]?) = some failure := by
  rw [effectOf, effect_eq_error_iff, Environment.value?_own,
    Environment.variables_ofVariables]

end Builtin

namespace View

/-- What a run on a view comes to. -/
abbrev Run : Type :=
  Except Stop (Outcome × View)

/-- The view with changed scopes, or unchanged after failing to find a variable. -/
def changed
    (view : View)
    (builtin : Builtin)
    (name : String)
    (scopes : Option Scopes) :
    Outcome × View :=
  match scopes with
  | some scopes => (.ok (), { view with scopes := scopes })
  | none => (.error (.undefinedVariable builtin name), view)

def perform
    (view : View)
    (builtin : Builtin) :
    Effect →
    Outcome × View
  | .assign name value =>
      (.ok (), { view with scopes := view.scopes.assign name value })
  | .update name value =>
      view.changed builtin name (view.scopes.update? name value)
  | .delete name =>
      view.changed builtin name (view.scopes.delete? name)
  | .write line =>
      let (outcome, sink) := view.sink.write line.toUTF8
      (outcome, { view with sink := sink })

/-- Run a builtin function on the nearest scope. -/
def execute
    (view : View)
    (builtin : Builtin) :
    Outcome × View :=
  match builtin.effectOf (view.scopes.headD ∅) with
  | .ok effect => view.perform builtin effect
  | .error failure => (.error failure, view)

/-- The view of a command's function: a scope with the arguments in front. -/
def enter
    (view : View)
    (command : Command) :
    View :=
  { view with
    scopes := Table.ofEntries (view.scopes.argumentValues command) :: view.scopes }

/-- The view without the nearest scope. -/
def leave
    (view : View) :
    View :=
  { view with scopes := view.scopes.tail }

def inOrder
    (step : α → View → Run) :
    List α →
    View →
    Run
  | [], view => .ok (.ok (), view)
  | first :: rest, view =>
      match step first view with
      | .error stop => .error stop
      | .ok (.error failure, after) => .ok (.error failure, after)
      | .ok (.ok (), after) => inOrder step rest after

/-- Dispatch a command to the function known under its target. -/
def dispatch
    (known : String → Option Function)
    (call : Function → View → Run)
    (command : Command)
    (view : View) :
    Run :=
  match known command.target with
  | none => .ok (.error (.undefinedFunction command.target), view)
  | some function =>
      (call function (view.enter command)).map
        fun (outcome, after) => (outcome, after.leave)

/-- Run a function, with at most `fuel` composite functions active at once. -/
def call
    (known : String → Option Function)
    (fuel : Nat)
    (function : Function)
    (view : View) :
    Run :=
  match fuel, function with
  | _, .builtin builtin => .ok (view.execute builtin)
  | 0, .composite _ => .error .outOfFuel
  | fuel + 1, .composite body =>
      (inOrder (dispatch known (call known fuel)) body.commands view).map
        fun (outcome, after) => (outcome.mapError (.inFunction body.name), after)

@[simp] theorem call_builtin
    (known : String → Option Function)
    (fuel : Nat)
    (builtin : Builtin)
    (view : View) :
    call known fuel (.builtin builtin) view = .ok (view.execute builtin) := by
  cases fuel <;> rfl

end View

namespace Machine

/-- A run as a frame sees it. -/
def Run.seenFrom
    (frame : Nat)
    (run : Run) :
    View.Run :=
  run.map fun (outcome, after) => (outcome, after.view frame)

/-- The functions that are found from a frame. -/
def known
    (machine : Machine)
    (frame : Nat)
    (name : String) :
    Option Function :=
  machine.environment.function? .chain frame name

/-- Changes along a chain leave the known functions as they are. -/
theorem known_of_changesAlong
    {frame : Nat}
    {before after : Machine}
    (changed :
      Environment.ChangesAlong frame before.environment after.environment) :
    after.known frame = before.known frame :=
  funext fun name => changed.toSameShape.function? .chain frame name

/-- An effect, seen from the frame in which it is carried out. -/
theorem view_perform
    {machine : Machine}
    {frame : Nat}
    (live : machine.environment.isLive frame)
    (builtin : Builtin)
    (effect : Effect) :
    ((machine.perform builtin frame effect).1,
        (machine.perform builtin frame effect).2.view frame) =
      (machine.view frame).perform builtin effect := by
  cases effect with
  | assign name value =>
      simp [perform, View.perform, view, Environment.scopes_assign live]
  | write line =>
      simp [perform_write, View.perform, view]
  | update name value =>
      simp only [perform, View.perform, view, ← Environment.scopes_update?]
      cases machine.environment.update? frame name value <;> rfl
  | delete name =>
      simp only [perform, View.perform, view, ← Environment.scopes_delete?]
      cases machine.environment.delete? frame name <;> rfl

theorem seenFrom_callBuiltin
    {machine : Machine}
    {frame : Nat}
    (live : machine.environment.isLive frame)
    (builtin : Builtin) :
    Run.seenFrom frame (machine.callBuiltin builtin frame) =
      .ok ((machine.view frame).execute builtin) := by
  have ownScope :
      (machine.view frame).scopes.headD ∅ = machine.environment.variables frame := by
    simp [view, Environment.scopes_of_isLive live]
  simp only [callBuiltin, live, ↓reduceIte, Run.seenFrom, Except.map, execute,
    View.execute, ownScope, builtin.effect_eq_effectOf]
  cases builtin.effectOf (machine.environment.variables frame) with
  | error failure => rfl
  | ok effect => exact congrArg Except.ok (view_perform live builtin effect)

/-- The frame of a command's function sees the arguments before what the caller sees. -/
theorem view_enter
    {machine : Machine}
    {caller : Nat}
    (live : machine.environment.isLive caller)
    (command : Command)
    (function : Function) :
    (machine.enter caller command function).view machine.environment.depth =
      (machine.view caller).enter command := by
  simp only [view, environment_enter, Environment.scopes_extend live,
    Environment.argumentValues_eq, View.enter]
  rfl

/-- The frame of a command's function knows the functions that the caller knows. -/
theorem known_enter
    {machine : Machine}
    {caller : Nat}
    (live : machine.environment.isLive caller)
    (command : Command)
    (function : Function) :
    (machine.enter caller command function).known machine.environment.depth =
      machine.known caller :=
  funext fun name => Environment.function?_extend _ live name

/-- A dispatch, seen from the caller, if calls are seen from the frame in which they run. -/
theorem seenFrom_dispatch
    {call : Function → Nat → Machine → Run}
    {viewCall : Function → View → View.Run}
    {known : String → Option Function}
    (seen :
      ∀ function frame machine,
        machine.environment.isLive frame →
          machine.known frame = known →
            Run.seenFrom frame (call function frame machine) =
              viewCall function (machine.view frame))
    (kept :
      ∀ function frame machine outcome after,
        call function frame machine = .ok (outcome, after) →
          Environment.ChangesAlong frame machine.environment after.environment)
    {machine : Machine}
    {caller : Nat}
    (live : machine.environment.isLive caller)
    (sameKnown : machine.known caller = known)
    (command : Command) :
    Run.seenFrom caller (dispatch call caller command machine) =
      View.dispatch known viewCall command (machine.view caller) := by
  have sameFound :
      machine.environment.function? .chain caller command.target =
        known command.target :=
    congrFun sameKnown command.target
  simp only [dispatch, live, ↓reduceIte, View.dispatch, sameFound]
  cases known command.target with
  | none => rfl
  | some function =>
      have calleeLive :
          (machine.enter caller command function).environment.isLive
            machine.environment.depth :=
        Environment.isLive_extend _ _ _
      have calleeSeen :=
        seen function machine.environment.depth
          (machine.enter caller command function) calleeLive
          ((known_enter live command function).trans sameKnown)
      rw [view_enter live] at calleeSeen
      simp only [← calleeSeen]
      rcases called :
          call function machine.environment.depth
            (machine.enter caller command function) with
        stop | ⟨outcome, returned⟩
      · rfl
      · have changed := kept _ _ _ _ _ called
        have left :
            (returned.leave machine.environment.depth).view caller =
              (returned.view machine.environment.depth).leave := by
          simp only [view, leave, View.leave,
            Environment.ChangesAlong.scopes_leave live changed]
        simp [Run.seenFrom, Except.map, left]

/-- A list of items, seen from one frame, if each of them is seen from it. -/
theorem seenFrom_inOrder
    {step : α → Machine → Run}
    {viewStep : α → View → View.Run}
    {frame : Nat}
    {known : String → Option Function}
    (seen :
      ∀ item machine,
        machine.environment.isLive frame →
          machine.known frame = known →
            Run.seenFrom frame (step item machine) =
              viewStep item (machine.view frame))
    (kept :
      ∀ item machine outcome after,
        step item machine = .ok (outcome, after) →
          Environment.ChangesAlong frame machine.environment after.environment)
    {machine : Machine}
    (live : machine.environment.isLive frame)
    (sameKnown : machine.known frame = known)
    (items : List α) :
    Run.seenFrom frame (inOrder step items machine) =
      View.inOrder viewStep items (machine.view frame) := by
  induction items generalizing machine with
  | nil => rfl
  | cons first rest inductionHypothesis =>
      have firstSeen := seen first machine live sameKnown
      simp only [inOrder, View.inOrder, ← firstSeen]
      rcases ran : step first machine with stop | ⟨failure | done, middle⟩
      · rfl
      · rfl
      · have changed := kept _ _ _ _ ran
        have middleLive : middle.environment.isLive frame := by
          rwa [changed.toSameShape.isLive]
        exact inductionHypothesis middleLive
          ((known_of_changesAlong changed).trans sameKnown)

/-- A call, seen from the live frame in which it runs. -/
theorem seenFrom_call
    {machine : Machine}
    {frame : Nat}
    (live : machine.environment.isLive frame)
    (fuel : Nat)
    (function : Function) :
    Run.seenFrom frame (machine.call fuel function frame) =
      View.call (machine.known frame) fuel function (machine.view frame) := by
  generalize sameKnown : machine.known frame = known
  induction fuel, function using call_induction generalizing frame machine with
  | builtin fuel builtin => simpa using seenFrom_callBuiltin live builtin
  | withoutFuel body => rfl
  | composite fuel body inductionHypothesis =>
      have commandsSeen :
          Run.seenFrom frame
              (inOrder (dispatch (call fuel) frame) body.commands machine) =
            View.inOrder (View.dispatch known (View.call known fuel))
              body.commands (machine.view frame) :=
        seenFrom_inOrder
          (fun command machine live sameKnown =>
            seenFrom_dispatch
              (fun function frame machine live sameKnown =>
                inductionHypothesis function live sameKnown)
              (fun _ _ _ _ _ => kept_changesAlong.call)
              live sameKnown command)
          (fun _ _ _ _ => kept_changesAlong.runCommand)
          live sameKnown body.commands
      simp only [call, View.call, ← commandsSeen]
      rcases inOrder (dispatch (call fuel) frame) body.commands machine with
        stop | ⟨outcome, after⟩ <;>
        rfl

/-- A command, seen from its live caller. -/
theorem seenFrom_runCommand
    {machine : Machine}
    {caller : Nat}
    (live : machine.environment.isLive caller)
    (fuel : Nat)
    (command : Command) :
    Run.seenFrom caller (machine.runCommand fuel caller command) =
      View.dispatch (machine.known caller) (View.call (machine.known caller) fuel)
        command (machine.view caller) :=
  seenFrom_dispatch
    (fun function frame machine live sameKnown => by
      rw [seenFrom_call live, sameKnown])
    (fun _ _ _ _ _ => kept_changesAlong.call)
    live rfl command

/-- Changes along one chain that look the same from its frame are the same. -/
theorem environment_eq_of_view
    {frame : Nat}
    {before first second : Machine}
    (firstChanged :
      Environment.ChangesAlong frame before.environment first.environment)
    (secondChanged :
      Environment.ChangesAlong frame before.environment second.environment)
    (same : first.view frame = second.view frame) :
    first.environment = second.environment :=
  firstChanged.eq_of_scopes secondChanged (congrArg View.scopes same)

end Machine

end FunctionScript
