import FunctionScript.Proofs.Batches
import FunctionScript.Session

namespace FunctionScript

/-!
# Arenas

All frames stand in one arena, and a session names them by handles that outlive them:
once frames were dropped, a handle may stand for no frame, or for a later one in the
same place. Whatever a session is asked for, in whatever order, its arena stays
well-formed. In a well-formed arena parent links can be followed blindly: from a live
frame they lead down to the root, through live frames only, and so no lookup and no
assignment reaches for a place outside the arena.
-/

namespace Environment

/--
The places met from a frame along parent links, nearest first. Links are followed
wherever they lead; at a place where no frame is live the walk stops, and it is given
up after `fuel` places.
-/
def walk
    (environment : Environment) :
    (fuel frame : Nat) →
    Except Stop (List Nat)
  | 0, _ => .error .outOfFuel
  | fuel + 1, frame =>
      match environment.frames[frame]? with
      | none => .error (.deadFrame frame)
      | some found =>
          match found.parent with
          | none => .ok [frame]
          | some parent => (environment.walk fuel parent).map (frame :: ·)

/-- What is found first on such a walk, if each frame is looked into before its link is followed. -/
def search
    (environment : Environment)
    (look : Nat → Frame → Option α) :
    (fuel frame : Nat) →
    Except Stop (Option α)
  | 0, _ => .error .outOfFuel
  | fuel + 1, frame =>
      match environment.frames[frame]? with
      | none => .error (.deadFrame frame)
      | some found =>
          match look frame found with
          | some value => .ok (some value)
          | none =>
              match found.parent with
              | none => .ok none
              | some parent => environment.search look fuel parent

variable
  {environment : Environment}
  {frame fuel : Nat}

/-- The frame at a live place shows its parent. -/
theorem exists_frame_of_isLive
    (live : environment.isLive frame) :
    ∃ found,
      environment.frames[frame]? = some found ∧
        found.parent = environment.parent? frame := by
  have inBounds : frame < environment.frames.size := isLive_iff.mp live
  have found := Array.getElem?_eq_getElem inBounds
  exact ⟨_, found, by simp [parent?, found]⟩

theorem WellFormed.parent?_root
    (wellFormed : environment.WellFormed) :
    environment.parent? root = none :=
  (wellFormed_iff.mp wellFormed).2.1

/-- A walk that follows links blindly comes to its end and meets the chain. -/
theorem WellFormed.walk_eq
    (wellFormed : environment.WellFormed)
    (live : environment.isLive frame)
    (enough : frame < fuel) :
    environment.walk fuel frame = .ok (environment.chain frame) := by
  induction frame, live using wellFormed.parent_induction generalizing fuel with
  | atRoot live =>
      obtain ⟨found, isFound, link⟩ := exists_frame_of_isLive live
      cases fuel with
      | zero => exact absurd enough (Nat.not_lt_zero _)
      | succ less => simp only [walk, isFound, link, wellFormed.parent?_root, chain_root live]
  | atChild frame parent live _ parentLink before parentWalk =>
      obtain ⟨found, isFound, link⟩ := exists_frame_of_isLive live
      cases fuel with
      | zero => exact absurd enough (Nat.not_lt_zero _)
      | succ less =>
          have parentEnough : parent < less :=
            Nat.lt_of_lt_of_le before (Nat.le_of_lt_succ enough)
          rw [walk, isFound, chain_of_parent? live parentLink before]
          simp only [link, parentLink, parentWalk parentEnough]
          rfl

/-- A search that follows links blindly finds what is found first along the chain. -/
theorem WellFormed.search_eq
    (wellFormed : environment.WellFormed)
    (look : Nat → Frame → Option α)
    (live : environment.isLive frame)
    (enough : frame < fuel) :
    environment.search look fuel frame =
      .ok ((environment.chain frame).findSome? fun place =>
        environment.frames[place]?.bind (look place)) := by
  induction frame, live using wellFormed.parent_induction generalizing fuel with
  | atRoot live =>
      obtain ⟨found, isFound, link⟩ := exists_frame_of_isLive live
      cases fuel with
      | zero => exact absurd enough (Nat.not_lt_zero _)
      | succ less =>
          rw [search, isFound, chain_root live]
          cases seen : look root found <;>
            simp [link, wellFormed.parent?_root, isFound, seen]
  | atChild frame parent live _ parentLink before parentSearch =>
      obtain ⟨found, isFound, link⟩ := exists_frame_of_isLive live
      cases fuel with
      | zero => exact absurd enough (Nat.not_lt_zero _)
      | succ less =>
          have parentEnough : parent < less :=
            Nat.lt_of_lt_of_le before (Nat.le_of_lt_succ enough)
          rw [search, isFound, chain_of_parent? live parentLink before]
          cases seen : look frame found with
          | some value => simp [isFound, seen]
          | none => simp [isFound, seen, link, parentLink, parentSearch parentEnough]

theorem getElem?_variables
    (environment : Environment)
    (place : Nat)
    (name : String) :
    (environment.variables place)[name]? =
      environment.frames[place]?.bind fun found => found.variables[name]? := by
  cases found : environment.frames[place]? <;>
    simp [Environment.variables, found]

theorem getElem?_functions
    (environment : Environment)
    (place : Nat)
    (name : String) :
    (environment.functions place)[name]? =
      environment.frames[place]?.bind fun found => found.functions[name]? := by
  cases found : environment.frames[place]? <;>
    simp [Environment.functions, found]

/-- The place itself, if its frame binds the variable. -/
def bindingPlace?
    (name : String)
    (place : Nat)
    (found : Frame) :
    Option Nat :=
  if found.variables.contains name then some place else none

/-- The nearest frame that binds a variable is the first whose place counts. -/
theorem bindingFrame?_eq_findSome?
    (environment : Environment)
    (frame : Nat)
    (name : String) :
    environment.bindingFrame? frame name =
      (environment.chain frame).findSome? fun place =>
        environment.frames[place]?.bind (bindingPlace? name place) := by
  rw [bindingFrame?, List.find?_eq_findSome?_guard]
  congr 1
  funext place
  cases found : environment.frames[place]? <;>
    simp [Environment.variables, Option.guard, bindingPlace?, found]

/--
What makes an arena sound. Parents stand before their children and the root has none;
walks along parent links end at the root and meet live frames in descending order;
searches along them find what the lookups find; assignments land in live frames, and
fall back on the root; and a pushed frame is empty, whatever stood in its place before.
-/
structure SoundArena
    (environment : Environment) :
    Prop where
  nonempty : 0 < environment.depth
  rootParent : environment.parent? root = none
  parentBefore :
    ∀ place,
      place ≠ root →
        environment.isLive place →
          ∃ parent, environment.parent? place = some parent ∧ parent < place
  walks :
    ∀ frame fuel,
      environment.isLive frame →
        frame < fuel →
          environment.walk fuel frame = .ok (environment.chain frame)
  descends : ∀ frame, (environment.chain frame).Pairwise (· > ·)
  staysLive : ∀ frame, ∀ place ∈ environment.chain frame, environment.isLive place
  endsAtRoot :
    ∀ frame,
      environment.isLive frame →
        (environment.chain frame).getLast? = some root
  findsValue :
    ∀ frame fuel name,
      environment.isLive frame →
        frame < fuel →
          environment.search (fun _ found => found.variables[name]?) fuel frame =
            .ok (environment.value? .chain frame name)
  findsFunction :
    ∀ frame fuel name,
      environment.isLive frame →
        frame < fuel →
          environment.search (fun _ found => found.functions[name]?) fuel frame =
            .ok (environment.function? .chain frame name)
  findsBinding :
    ∀ frame fuel name,
      environment.isLive frame →
        frame < fuel →
          environment.search (bindingPlace? name) fuel frame =
            .ok (environment.bindingFrame? frame name)
  changesLive :
    ∀ frame name target,
      environment.bindingFrame? frame name = some target → environment.isLive target
  assignsLive :
    ∀ frame name,
      environment.isLive frame →
        environment.isLive (environment.assignmentFrame frame name)
  fallsBackOnRoot :
    ∀ frame name,
      environment.isLive frame →
        environment.bindingFrame? frame name = none →
          environment.assignmentFrame frame name = root
  pushesEmpty :
    ∀ parent,
      environment.isLive parent →
        (environment.push parent).depth = environment.depth + 1 ∧
          (environment.push parent).parent? environment.depth = some parent ∧
          (environment.push parent).variables environment.depth = ∅ ∧
          (environment.push parent).functions environment.depth = ∅

theorem WellFormed.soundArena
    (wellFormed : environment.WellFormed) :
    SoundArena environment where
  nonempty := wellFormed.root_live
  rootParent := wellFormed.parent?_root
  parentBefore := (wellFormed_iff.mp wellFormed).2.2
  walks := fun _ _ => wellFormed.walk_eq
  descends := environment.descending_chain
  staysLive := fun _ _ => isLive_of_mem_chain
  endsAtRoot := fun _ => wellFormed.getLast?_chain
  findsValue := by
    intro frame fuel name live enough
    rw [wellFormed.search_eq _ live enough, value?]
    simp only [Reach.frames, getElem?_variables]
  findsFunction := by
    intro frame fuel name live enough
    rw [wellFormed.search_eq _ live enough, function?]
    simp only [Reach.frames, getElem?_functions]
  findsBinding := by
    intro frame fuel name live enough
    rw [wellFormed.search_eq _ live enough, bindingFrame?_eq_findSome?]
  changesLive := fun _ _ _ found =>
    isLive_of_mem_chain (mem_chain_of_bindingFrame? found)
  assignsLive := fun _ name live =>
    isLive_of_mem_chain (assignmentFrame_mem_chain live name)
  fallsBackOnRoot := by
    intro frame name live nothing
    rw [assignmentFrame, nothing, wellFormed.getLast?_chain live]
    rfl
  pushesEmpty := by
    intro parent live
    refine ⟨depth_push environment parent, ?_, ?_, ?_⟩
    · simp [parent?_push]
    · simp [variables_of_depth_le]
    · simp [functions_of_depth_le]

end Environment

namespace Machine

/-- A source that runs, whether it is a script or not, leaves the arena well-formed. -/
theorem wellFormed_runSource
    {machine after : Machine}
    {fuel : Nat}
    {source : ByteArray}
    {outcome : Outcome}
    (wellFormed : machine.environment.WellFormed)
    (ran : machine.runSource fuel source = .ok (outcome, after)) :
    after.environment.WellFormed := by
  cases read : Script.ofSource source with
  | error failure =>
      simp only [runSource_eq, read] at ran
      cases ran
      exact wellFormed
  | ok script =>
      simp only [runSource_eq, read] at ran
      have mergedShape := sameShape_runScript ran
      exact (wellFormed.overlayRoot _ _).of_sameShape mergedShape

end Machine

namespace Session

/-- The session after steps in the frames of handles, one after another. -/
def run
    (fuel : Nat)
    (session : Session)
    (steps : List (Nat × Request)) :
    Session :=
  steps.foldl (fun session step => (session.step fuel step.1 step.2).2) session

variable
  {session : Session}
  {place : Nat}

/-- A run leaves the arena of a session well-formed if it leaves that of its machine so. -/
theorem wellFormed_afterRun
    {run : Run}
    (wellFormed : session.machine.environment.WellFormed)
    (ranSoundly :
      ∀ outcome after, run = .ok (outcome, after) → after.environment.WellFormed) :
    (session.afterRun run).2.machine.environment.WellFormed := by
  rcases run with stop | ⟨outcome, after⟩
  · cases stop <;> exact wellFormed
  · exact ranSoundly outcome after rfl

theorem wellFormed_afterChange
    {change : Option Environment}
    (wellFormed : session.machine.environment.WellFormed)
    (changedSoundly : ∀ after, change = some after → after.WellFormed) :
    (session.afterChange change).2.machine.environment.WellFormed := by
  cases change with
  | none => exact wellFormed
  | some after => exact changedSoundly after rfl

/-- What a session does in a frame that is live, or need not be, leaves its arena well-formed. -/
theorem wellFormed_perform
    (wellFormed : session.machine.environment.WellFormed)
    (fuel : Nat)
    (request : Request)
    (live :
      request.needsFrame = true → session.machine.environment.isLive place) :
    (session.perform fuel place request).2.machine.environment.WellFormed := by
  have keptByCall
      (function : Function)
      (outcome : Outcome)
      (after : Machine)
      (ran : session.machine.call fuel function place = .ok (outcome, after)) :
      after.environment.WellFormed :=
    wellFormed.of_sameShape (Machine.kept_changesAlong.call ran).toSameShape
  cases request with
  | script source =>
      apply wellFormed_afterRun wellFormed
      intro outcome after ran
      exact Machine.wellFormed_runSource wellFormed ran
  | command command =>
      apply wellFormed_afterRun wellFormed
      intro outcome after ran
      exact wellFormed.of_sameShape (Machine.kept_changesAlong.runCommand ran).toSameShape
  | call name reach =>
      simp only [perform]
      cases session.machine.environment.function? reach place name with
      | none => exact wellFormed
      | some function => exact wellFormed_afterRun wellFormed (keptByCall function)
  | builtin builtin =>
      apply wellFormed_afterRun wellFormed
      intro outcome after ran
      exact keptByCall (.builtin builtin) outcome after ((Machine.call_builtin _ _ _ _).trans ran)
  | execute builtin =>
      exact wellFormed.of_sameShape
        (Machine.kept_changesAlong.execute builtin place
          { session.machine with sink := .unlimited } (live rfl)).toSameShape
  | push => exact wellFormed.push (live rfl)
  | pop => exact wellFormed.pop place
  | define name value => exact wellFormed.defineVariable place name value
  | set name value => exact wellFormed.defineVariable _ name value
  | update name value =>
      apply wellFormed_afterChange wellFormed
      intro after changed
      obtain ⟨target, _, rfl⟩ := Option.map_eq_some_iff.mp changed
      exact wellFormed.defineVariable target name value
  | delete name =>
      apply wellFormed_afterChange wellFormed
      intro after changed
      obtain ⟨target, _, rfl⟩ := Option.map_eq_some_iff.mp changed
      exact wellFormed.eraseVariable target name
  | defineFunction name function => exact wellFormed.defineFunction place name function
  | flush =>
      have keepsFrames :
          session.flushOutput.2.machine.environment = session.machine.environment := by
        rw [flushOutput]
        split <;> rfl
      exact keepsFrames ▸ wellFormed
  | depth | parent | «variables» | get _ _ | resolve _ | getFunction _ _ =>
      exact wellFormed

/-- Every step of a session leaves its arena well-formed. -/
theorem wellFormed_step
    (wellFormed : session.machine.environment.WellFormed)
    (fuel handle : Nat)
    (request : Request) :
    (session.step fuel handle request).2.machine.environment.WellFormed := by
  rw [step]
  split
  · exact wellFormed
  · next usable =>
      apply wellFormed_perform wellFormed
      intro needed
      simpa [needed] using usable

theorem wellFormed_run
    (wellFormed : session.machine.environment.WellFormed)
    (fuel : Nat)
    (steps : List (Nat × Request)) :
    (session.run fuel steps).machine.environment.WellFormed := by
  induction steps generalizing session with
  | nil => exact wellFormed
  | cons step rest inductionHypothesis =>
      exact inductionHypothesis (wellFormed_step wellFormed fuel step.1 step.2)

/--
Whatever a session is asked for, step after step, in frames of handles that are live,
dropped or reused, its arena is sound.
-/
theorem soundArena_run
    (sink : Sink)
    (fuel : Nat)
    (steps : List (Nat × Request)) :
    ((initial sink).run fuel steps).machine.environment.SoundArena :=
  (wellFormed_run Environment.WellFormed.initial fuel steps).soundArena

/--
A frame with a variable and a frame under it are dropped by the handle of the first,
which then stands for a frame that was pushed since; the handle of the second stands
for none.
-/
def reuseDropped : List (Nat × Request) :=
  [(0, .push), (1, .define "x" "1"), (1, .push), (1, .pop), (0, .push), (2, .pop), (0, .pop)]

/-- The frame that took the place of a dropped one has nothing of its variable. -/
theorem reuseDropped_soundArena :
    let after := (initial .unlimited).run 0 reuseDropped
    after.machine.environment.SoundArena ∧
      after.place 1 = after.place 3 ∧
      after.machine.environment.isLive (after.place 1) = true ∧
      after.machine.environment.isLive (after.place 2) = false ∧
      after.machine.environment.value? .own (after.place 1) "x" = none := by
  refine ⟨soundArena_run .unlimited 0 reuseDropped, ?_, ?_, ?_, ?_⟩ <;>
    decide +kernel

end Session

end FunctionScript
