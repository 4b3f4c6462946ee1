import FunctionScript.Proofs.Termination
import FunctionScript.Proofs.WellFormed

namespace FunctionScript

/-!
# Balance

Evaluation leaves the frames as it found them. Every operation of a run works from
a live frame of a well-formed environment, so no place outside the arena is ever
met on the way along parent links; and when a run returns, whether it failed or
not, the same frames are live, with the same parents and the same functions.
-/

open Relation

namespace Environment

/-- The place is met on the way from a frame along parent links, live or not. -/
def Meets
    (environment : Environment) :
    Nat →
    Nat →
    Prop :=
  ReflTransGen fun frame parent => environment.parent? frame = some parent

namespace WellFormed

variable
  {environment : Environment}
  {frame place : Nat}

/-- On the way from a live frame along parent links there are live frames only. -/
theorem isLive_of_meets
    (wellFormed : environment.WellFormed)
    (live : environment.isLive frame)
    (meets : environment.Meets frame place) :
    environment.isLive place := by
  obtain ⟨_, rootParent, parents⟩ := wellFormed_iff.mp wellFormed
  induction meets with
  | refl => exact live
  | @tail child parent _ link childLive =>
      have notRoot : child ≠ root := by
        rintro rfl
        rw [rootParent] at link
        cases link
      obtain ⟨above, isParent, before⟩ := parents child notRoot childLive
      obtain rfl : above = parent := by
        simpa [isParent] using link
      rw [isLive_iff] at childLive ⊢
      exact Nat.lt_trans before childLive

end WellFormed

end Environment

namespace Machine

variable
  {machine after : Machine}
  {function : Function}
  {frame : Nat}

/--
At some step of the run of a function in a frame, an operation works on the
environment from the place: a function starts there, after its arguments have been
bound; a command is dispatched there, which looks for a function, resolves arguments
and pushes a frame; or a call returns there, and its frame is dropped.
-/
inductive WorksFrom
    (function : Function)
    (frame : Nat)
    (machine : Machine) :
    Environment →
    Nat →
    Prop where
  | start
      {layers : List String}
      {inner : Function}
      {place : Nat}
      {reached : Machine}
      (reaches : Reaches function frame machine layers inner place reached) :
      WorksFrom function frame machine reached.environment place
  | dispatch
      {layers : List String}
      {body : Composite}
      {place : Nat}
      {reached middle : Machine}
      {earlier later : List Command}
      {command : Command}
      (reaches :
        Reaches function frame machine layers (.composite body) place reached)
      (split : body.commands = earlier ++ command :: later)
      (completed :
        Finishes (fun fuel => inOrder (runCommand fuel place) earlier reached)
          (.ok ()) middle) :
      WorksFrom function frame machine middle.environment place
  | return
      {layers : List String}
      {inner : Function}
      {place : Nat}
      {reached returned : Machine}
      {outcome : Outcome}
      (reaches : Reaches function frame machine layers inner place reached)
      (finishes :
        Finishes (fun fuel => reached.call fuel inner place) outcome returned) :
      WorksFrom function frame machine returned.environment place

/-- The caller's frame and the run of the function that the command calls. -/
inductive CommandWorksFrom
    (command : Command)
    (caller : Nat)
    (machine : Machine) :
    Environment →
    Nat →
    Prop where
  | dispatch :
      CommandWorksFrom command caller machine machine.environment caller
  | callee
      {function : Function}
      {environment : Environment}
      {place : Nat}
      (found :
        machine.environment.function? .chain caller command.target = some function)
      (works :
        WorksFrom function machine.environment.depth
          (machine.enter caller command function) environment place) :
      CommandWorksFrom command caller machine environment place

/-- The root frame, before and after the script is laid over it, and the run of `init`. -/
inductive ScriptWorksFrom
    (script : Script)
    (machine : Machine) :
    Environment →
    Nat →
    Prop where
  | overlay :
      ScriptWorksFrom script machine machine.environment Environment.root
  | lookUp :
      ScriptWorksFrom script machine (machine.merge script).environment
        Environment.root
  | init
      {function : Function}
      {environment : Environment}
      {place : Nat}
      (found : (machine.callable script)[initName]? = some function)
      (works :
        WorksFrom function Environment.root (machine.merge script)
          environment place) :
      ScriptWorksFrom script machine environment place

/--
What holds of an environment and a frame in it, through all changes along the chain
of the frame, and of the fresh frame of any command that is called from there.
-/
structure IsInvariant
    (holds : Environment → Nat → Prop) :
    Prop where
  changed :
    ∀ {frame before after},
      Environment.ChangesAlong frame before after → holds before frame →
        holds after frame
  entered :
    ∀ (machine : Machine) (frame : Nat) (command : Command) (function : Function),
      holds machine.environment frame →
        holds (machine.enter frame command function).environment
          machine.environment.depth

section Invariants

variable
  {holds : Environment → Nat → Prop}
  (invariant : IsInvariant holds)
  (start : holds machine.environment frame)

include invariant start

/-- An invariant that holds at the start of a run holds at every point that is reached. -/
theorem Reaches.invariant_holds
    {layers : List String}
    {inner : Function}
    {place : Nat}
    {reached : Machine}
    (reaches : Reaches function frame machine layers inner place reached) :
    holds reached.environment place := by
  induction reaches with
  | start function frame machine => exact start
  | @through body frame machine middle earlier later command callee
      layers inner place reached _ completed _ _ inductionHypothesis =>
      obtain ⟨fuel, ran⟩ := completed
      have middleHolds := invariant.changed (kept_changesAlong.commands ran) start
      exact inductionHypothesis (invariant.entered middle frame command callee middleHolds)

/-- An invariant that holds at the start of a run holds wherever the run works. -/
theorem WorksFrom.invariant_holds
    {environment : Environment}
    {place : Nat}
    (works : WorksFrom function frame machine environment place) :
    holds environment place := by
  cases works with
  | start reaches => exact reaches.invariant_holds invariant start
  | dispatch reaches split completed =>
      obtain ⟨fuel, ran⟩ := completed
      exact invariant.changed (kept_changesAlong.commands ran)
        (reaches.invariant_holds invariant start)
  | «return» reaches finishes =>
      obtain ⟨fuel, ran⟩ := finishes
      exact invariant.changed (kept_changesAlong.call ran)
        (reaches.invariant_holds invariant start)

end Invariants

/-- The frame is live in a well-formed environment, so what works from it uses live places only. -/
def Sound
    (environment : Environment)
    (frame : Nat) :
    Prop :=
  environment.WellFormed ∧ environment.isLive frame

namespace Sound

/-- Changes along a chain keep its frame live and the environment well-formed. -/
theorem of_changesAlong
    {before after : Environment}
    (sound : Sound before frame)
    (changed : Environment.ChangesAlong frame before after) :
    Sound after frame :=
  ⟨sound.1.of_sameShape changed.toSameShape, by
    rw [changed.toSameShape.isLive]
    exact sound.2⟩

theorem enter
    (sound : Sound machine.environment frame)
    (command : Command)
    (function : Function) :
    Sound (machine.enter frame command function).environment
      machine.environment.depth :=
  ⟨sound.1.extend sound.2 _, Environment.isLive_extend _ _ _⟩

theorem isInvariant :
    IsInvariant Sound where
  changed := fun changed sound => sound.of_changesAlong changed
  entered := fun _ _ command function sound => sound.enter command function

/-- Wherever a run from a live frame works, it works from a live frame. -/
theorem worksFrom
    {environment : Environment}
    {place : Nat}
    (sound : Sound machine.environment frame)
    (works : WorksFrom function frame machine environment place) :
    Sound environment place :=
  works.invariant_holds isInvariant sound

end Sound

section Live

variable {fuel : Nat}

/-- A dispatch from a live frame asks for no dead frame if calls in live frames do not. -/
theorem dispatch_ne_deadFrame
    {call : Function → Nat → Machine → Run}
    {dead : Nat}
    (callLive :
      ∀ function frame machine,
        machine.environment.isLive frame →
          call function frame machine ≠ .error (.deadFrame dead))
    (live : machine.environment.isLive frame)
    (command : Command) :
    dispatch call frame command machine ≠ .error (.deadFrame dead) := by
  simp only [dispatch, live, ↓reduceIte]
  cases machine.environment.function? .chain frame command.target with
  | none => simp
  | some function =>
      have calleeLive :=
        callLive function machine.environment.depth
          (machine.enter frame command function)
          (Environment.isLive_extend _ _ _)
      rcases called :
          call function machine.environment.depth
            (machine.enter frame command function) with stop | ended
      · simpa [called, Except.map] using calleeLive
      · simp [called, Except.map]

/-- A list of items asks for no dead frame if none of them does and each keeps the frame live. -/
theorem inOrder_ne_deadFrame
    {step : α → Machine → Run}
    {dead : Nat}
    (stepLive :
      ∀ item machine,
        machine.environment.isLive frame →
          step item machine ≠ .error (.deadFrame dead))
    (keepsLive :
      ∀ item machine outcome after,
        step item machine = .ok (outcome, after) →
          machine.environment.isLive frame →
            after.environment.isLive frame)
    (live : machine.environment.isLive frame)
    (items : List α) :
    inOrder step items machine ≠ .error (.deadFrame dead) := by
  induction items generalizing machine with
  | nil => simp [inOrder]
  | cons first rest inductionHypothesis =>
      have firstLive := stepLive first machine live
      rw [inOrder]
      rcases ran : step first machine with stop | ⟨failure | done, middle⟩
      · rwa [ran] at firstLive
      · simp
      · exact inductionHypothesis (keepsLive _ _ _ _ ran live)

theorem runCommand_keepsLive
    {command : Command}
    {outcome : Outcome}
    {caller : Nat}
    (ran : machine.runCommand fuel caller command = .ok (outcome, after))
    (live : machine.environment.isLive frame) :
    after.environment.isLive frame := by
  rwa [(kept_changesAlong.runCommand ran).toSameShape.isLive]

/-- A call in a live frame never asks for a dead one. -/
theorem call_ne_deadFrame
    (live : machine.environment.isLive frame)
    (dead : Nat) :
    machine.call fuel function frame ≠ .error (.deadFrame dead) := by
  induction fuel, function using call_induction generalizing frame machine with
  | builtin fuel builtin => simp [callBuiltin, live]
  | withoutFuel body => simp [call]
  | composite fuel body inductionHypothesis =>
      have dispatchLive
          (command : Command)
          (machine : Machine)
          (live : machine.environment.isLive frame) :
          dispatch (call fuel) frame command machine ≠ .error (.deadFrame dead) :=
        dispatch_ne_deadFrame
          (fun function _ _ live => inductionHypothesis function live) live command
      have commandsLive :=
        inOrder_ne_deadFrame dispatchLive (fun _ _ _ _ => runCommand_keepsLive)
          live body.commands
      rw [call, Run.annotate]
      rcases ran : inOrder (dispatch (call fuel) frame) body.commands machine with
        stop | ended
      · simpa [ran, Except.map] using commandsLive
      · simp [Except.map]

theorem runCommand_ne_deadFrame
    (live : machine.environment.isLive frame)
    (command : Command)
    (dead : Nat) :
    machine.runCommand fuel frame command ≠ .error (.deadFrame dead) :=
  dispatch_ne_deadFrame (fun _ _ _ live => call_ne_deadFrame live dead) live command

end Live

/--
What makes evaluation balanced: no operation can meet a place outside the arena, the
run never asks for a dead frame, and after it the frames, their parents and their
functions are what they should be.
-/
structure Balanced
    (worksFrom : Environment → Nat → Prop)
    (run : Nat → Run)
    (before : Environment)
    (functionAfter : Nat → String → Option Function) :
    Prop where
  inArena :
    ∀ environment frame place,
      worksFrom environment frame →
        environment.Meets frame place →
          environment.isLive place
  neverDead : ∀ fuel dead, run fuel ≠ .error (.deadFrame dead)
  wellFormed :
    ∀ outcome after, Finishes run outcome after → after.environment.WellFormed
  depth :
    ∀ outcome after,
      Finishes run outcome after → after.environment.depth = before.depth
  parents :
    ∀ outcome after,
      Finishes run outcome after →
        ∀ place, after.environment.parent? place = before.parent? place
  functions :
    ∀ outcome after,
      Finishes run outcome after →
        ∀ place name,
          (after.environment.functions place)[name]? = functionAfter place name

/-- A run is balanced if it changes no more than variables of sound environments. -/
theorem Balanced.of_sameShape
    {worksFrom : Environment → Nat → Prop}
    {run : Nat → Run}
    {before : Environment}
    (wellFormed : before.WellFormed)
    (sound :
      ∀ environment frame, worksFrom environment frame → Sound environment frame)
    (neverDead : ∀ fuel dead, run fuel ≠ .error (.deadFrame dead))
    (sameShape :
      ∀ outcome after,
        Finishes run outcome after →
          Environment.SameShape after.environment before) :
    Balanced worksFrom run before fun place name => (before.functions place)[name]? where
  inArena := fun environment frame _ works =>
    (sound environment frame works).1.isLive_of_meets (sound environment frame works).2
  neverDead := neverDead
  wellFormed := fun outcome after finishes =>
    wellFormed.of_sameShape (sameShape outcome after finishes)
  depth := fun outcome after finishes => (sameShape outcome after finishes).depth
  parents := fun outcome after finishes => (sameShape outcome after finishes).parents
  functions := fun outcome after finishes place name => by
    rw [(sameShape outcome after finishes).functions]

theorem call_balanced
    (wellFormed : machine.environment.WellFormed)
    (live : machine.environment.isLive frame) :
    Balanced (WorksFrom function frame machine)
      (fun fuel => machine.call fuel function frame) machine.environment
      fun place name => (machine.environment.functions place)[name]? := by
  refine .of_sameShape wellFormed ?_ (fun _ => call_ne_deadFrame live) ?_
  · exact fun _ _ => Sound.worksFrom ⟨wellFormed, live⟩
  · rintro outcome after ⟨fuel, ran⟩
    exact (kept_changesAlong.call ran).toSameShape

theorem runCommand_balanced
    (wellFormed : machine.environment.WellFormed)
    (live : machine.environment.isLive frame)
    (command : Command) :
    Balanced (CommandWorksFrom command frame machine)
      (fun fuel => machine.runCommand fuel frame command) machine.environment
      fun place name => (machine.environment.functions place)[name]? := by
  have sound : Sound machine.environment frame := ⟨wellFormed, live⟩
  refine .of_sameShape wellFormed ?_
    (fun _ => runCommand_ne_deadFrame live command) ?_
  · rintro environment place (_ | ⟨_, works⟩)
    · exact sound
    · exact (sound.enter command _).worksFrom works
  · rintro outcome after ⟨fuel, ran⟩
    exact (kept_changesAlong.runCommand ran).toSameShape

/-- The functions found by name in a frame once a script has been laid over the root. -/
def mergedFunction
    (machine : Machine)
    (script : Script)
    (place : Nat)
    (name : String) :
    Option Function :=
  if place = Environment.root then
    script.functions[name]?.or (machine.environment.functions place)[name]?
  else
    (machine.environment.functions place)[name]?

theorem functions_merge
    {script : Script}
    (rootLive : machine.environment.isLive Environment.root)
    (place : Nat)
    (name : String) :
    ((machine.merge script).environment.functions place)[name]? =
      machine.mergedFunction script place name := by
  simp only [merge, record, mergedFunction,
    Environment.functions_overlayRoot _ _ _ rootLive]
  by_cases isRoot : place = Environment.root
  · simp [isRoot, Std.ExtTreeMap.getElem?_union]
  · simp [isRoot]

/-- A finished script leaves the shape that it found once its tables were merged. -/
theorem sameShape_runScript
    {script : Script}
    {fuel : Nat}
    {outcome : Outcome}
    (ran : machine.runScript fuel script = .ok (outcome, after)) :
    Environment.SameShape after.environment (machine.merge script).environment := by
  rcases runScript_eq_ok_iff.mp ran with ⟨_, _, rfl⟩ | ⟨function, _, called⟩
  · exact .refl _
  · exact (kept_changesAlong.call called).toSameShape

theorem runScript_ne_deadFrame
    {script : Script}
    {fuel : Nat}
    (rootLive : (machine.merge script).environment.isLive Environment.root)
    (dead : Nat) :
    machine.runScript fuel script ≠ .error (.deadFrame dead) := by
  rw [runScript]
  cases (machine.merge script).environment.function? .own Environment.root initName with
  | none => simp
  | some function => exact call_ne_deadFrame rootLive dead

theorem runScript_balanced
    (wellFormed : machine.environment.WellFormed)
    (script : Script) :
    Balanced (ScriptWorksFrom script machine)
      (fun fuel => machine.runScript fuel script) machine.environment
      (machine.mergedFunction script) := by
  have rootLive : machine.environment.isLive Environment.root :=
    (Environment.wellFormed_iff.mp wellFormed).1
  have merged : Sound (machine.merge script).environment Environment.root :=
    ⟨wellFormed.overlayRoot _ _, by
      rwa [Environment.isLive_iff, depth_merge, ← Environment.isLive_iff]⟩
  have balanced :
      Balanced (ScriptWorksFrom script machine)
        (fun fuel => machine.runScript fuel script)
        (machine.merge script).environment
        fun place name =>
          ((machine.merge script).environment.functions place)[name]? := by
    refine .of_sameShape merged.1 ?_ (fun _ => runScript_ne_deadFrame merged.2) ?_
    · rintro environment place (_ | _ | ⟨_, works⟩)
      · exact ⟨wellFormed, rootLive⟩
      · exact merged
      · exact merged.worksFrom works
    · rintro outcome after ⟨fuel, ran⟩
      exact sameShape_runScript ran
  simp only [functions_merge rootLive] at balanced
  refine { balanced with depth := ?_, parents := ?_ }
  · intro outcome after finishes
    rw [balanced.depth outcome after finishes, depth_merge]
  · intro outcome after finishes place
    rw [balanced.parents outcome after finishes]
    exact Environment.parent?_overlayRoot _ _ _ place

/--
Evaluation is balanced, whatever it evaluates and however it ends: a function in any
live frame, a command of any live caller, and a script, whose functions stay behind
in the root.
-/
theorem evaluation_balanced
    (wellFormed : machine.environment.WellFormed) :
    (∀ function frame,
      machine.environment.isLive frame →
        Balanced (WorksFrom function frame machine)
          (fun fuel => machine.call fuel function frame) machine.environment
          fun place name => (machine.environment.functions place)[name]?) ∧
    (∀ command caller,
      machine.environment.isLive caller →
        Balanced (CommandWorksFrom command caller machine)
          (fun fuel => machine.runCommand fuel caller command) machine.environment
          fun place name => (machine.environment.functions place)[name]?) ∧
    ∀ script,
      Balanced (ScriptWorksFrom script machine)
        (fun fuel => machine.runScript fuel script) machine.environment
        (machine.mergedFunction script) :=
  ⟨fun _ _ => call_balanced wellFormed,
    fun command _ live => runCommand_balanced wellFormed live command,
    runScript_balanced wellFormed⟩

/-- The bare machine with two frames under the root, side by side. -/
def bareWithFrames : Machine :=
  { bare with
    environment :=
      (bare.environment.extend Environment.root []).extend Environment.root [] }

/-- A body that fails half way in the older frame leaves all three frames as they were. -/
theorem renewAndPrint_balanced :
    bareWithFrames.environment.WellFormed ∧
      bareWithFrames.environment.isLive 1 ∧
      ∃ outcome after,
        Finishes
            (fun fuel => bareWithFrames.call fuel (.composite renewAndPrint) 1)
            outcome after ∧
          outcome ≠ .ok () ∧
          after.environment.WellFormed ∧
          after.environment.depth = 3 ∧
          after.environment.parent? 2 = some Environment.root := by
  have bareWellFormed : bare.environment.WellFormed :=
    Environment.WellFormed.initial.overlayRoot _ _
  have wellFormed : bareWithFrames.environment.WellFormed :=
    (bareWellFormed.extend rfl []).extend rfl []
  have fails :
      (bareWithFrames.call 1 (.composite renewAndPrint) 1).toOption.map
          (fun ended => ended.1.isOk) =
        some false := by
    decide +kernel
  obtain ⟨outcome, after, ran, isNotOk⟩ := exists_of_observed fails
  have finishes :
      Finishes (fun fuel => bareWithFrames.call fuel (.composite renewAndPrint) 1)
        outcome after :=
    ⟨1, ran⟩
  have balanced := (evaluation_balanced wellFormed).1 (.composite renewAndPrint) 1 rfl
  refine ⟨wellFormed, rfl, outcome, after, finishes, ?_,
    balanced.wellFormed outcome after finishes, balanced.depth outcome after finishes,
    balanced.parents outcome after finishes 2⟩
  rintro rfl
  cases isNotOk

end Machine

end FunctionScript
