import FunctionScript.Proofs.CallGraph
import FunctionScript.Proofs.CallPath
import FunctionScript.Proofs.DispatchTrace
import FunctionScript.Script

namespace FunctionScript.Machine

/-!
# Termination

A run never binds a function, so its calls follow the call graph of the functions
known in its frame. If no cycle is reachable there, every run comes to an end, and
the composite functions that are reachable bound the frames that are ever live. As
a body has no branches, a run that succeeds has gone through everything reachable.
-/

open CallGraph Relation

/-- The functions of the table are those found from a live frame. -/
structure Knows
    (functions : Table Function)
    (frame : Nat)
    (machine : Machine) :
    Prop where
  live : machine.environment.isLive frame
  known :
    ∀ name,
      machine.environment.function? .chain frame name = functions[name]?

namespace Knows

variable
  {functions : Table Function}
  {frame : Nat}
  {machine after : Machine}

/-- The frame of a command's function knows what the caller knows. -/
theorem enter
    (knows : machine.Knows functions frame)
    (command : Command)
    (function : Function) :
    (machine.enter frame command function).Knows
      functions machine.environment.depth where
  live := Environment.isLive_extend _ _ _
  known := fun name =>
    (Environment.function?_extend _ knows.live name).trans (knows.known name)

/-- Changes along the chain of a frame do not change what it knows. -/
theorem of_changesAlong
    (knows : machine.Knows functions frame)
    (changed :
      Environment.ChangesAlong frame machine.environment after.environment) :
    after.Knows functions frame where
  live := by
    rw [changed.toSameShape.isLive]
    exact knows.live
  known := fun name => by
    rw [changed.toSameShape.function?]
    exact knows.known name

end Knows

/-- No dispatch logged between two machines had more live frames than the limit. -/
def LiveWithin
    (limit : Nat)
    (before after : Machine) :
    Prop :=
  ∃ trace,
    after.dispatches = before.dispatches ++ trace ∧
      ∀ dispatch ∈ trace, dispatch.live ≤ limit

namespace LiveWithin

variable
  {limit : Nat}
  {first second third : Machine}

theorem of_eq
    (same : second.dispatches = first.dispatches) :
    LiveWithin limit first second :=
  ⟨[], by simp [same], by simp⟩

theorem trans
    (left : LiveWithin limit first second)
    (right : LiveWithin limit second third) :
    LiveWithin limit first third := by
  obtain ⟨leftTrace, leftLogged, leftWithin⟩ := left
  obtain ⟨rightTrace, rightLogged, rightWithin⟩ := right
  refine ⟨leftTrace ++ rightTrace, ?_, ?_⟩
  · rw [rightLogged, leftLogged, List.append_assoc]
  · intro dispatch member
    rcases List.mem_append.mp member with inLeft | inRight
    · exact leftWithin dispatch inLeft
    · exact rightWithin dispatch inRight

theorem mono
    {higher : Nat}
    (below : limit ≤ higher)
    (within : LiveWithin limit first second) :
    LiveWithin higher first second := by
  obtain ⟨trace, logged, within⟩ := within
  exact ⟨trace, logged, fun dispatch member =>
    Nat.le_trans (within dispatch member) below⟩

end LiveWithin

/-- What the named function calls finishes with the fuel, within the bound of further frames. -/
def CalleesFinish
    (functions : Table Function)
    (name : String)
    (fuel bound : Nat) :
    Prop :=
  ∀ callee function frame machine,
    Calls functions name callee →
      functions[callee]? = some function →
        Knows functions frame machine →
          ∃ outcome after,
            machine.call fuel function frame = .ok (outcome, after) ∧
              LiveWithin (machine.environment.depth + bound) machine after

section Acyclic

variable
  {functions : Table Function}
  {name : String}
  {function : Function}
  {frame fuel : Nat}
  {machine : Machine}

/-- A command of a composite function finishes if the functions it may call do. -/
theorem runCommand_finishes
    {bound : Nat}
    {body : Composite}
    (calleesFinish : CalleesFinish functions name fuel bound)
    (isBody : functions[name]? = some (.composite body))
    (knows : machine.Knows functions frame)
    {command : Command}
    (member : command ∈ body.commands) :
    ∃ outcome after,
      machine.runCommand fuel frame command = .ok (outcome, after) ∧
        LiveWithin (machine.environment.depth + (bound + 1)) machine after := by
  have found := knows.known command.target
  cases target : functions[command.target]? with
  | none =>
      rw [target] at found
      exact ⟨_, machine,
        dispatch_eq_ok_iff.mpr ⟨knows.live, .inl ⟨found, rfl, rfl⟩⟩,
        .of_eq rfl⟩
  | some callee =>
      rw [target] at found
      obtain ⟨outcome, returned, called, within⟩ :=
        calleesFinish _ _ _ _ (.of_member isBody member target) target
          (knows.enter command callee)
      refine ⟨outcome, returned.leave machine.environment.depth,
        dispatch_eq_ok_iff.mpr
          ⟨knows.live, .inr ⟨callee, returned, found, called, rfl⟩⟩, ?_⟩
      have entered :
          LiveWithin (machine.environment.depth + (bound + 1))
            machine (machine.enter frame command callee) := by
        refine ⟨_, dispatches_enter machine frame command callee, ?_⟩
        simp only [List.mem_singleton, forall_eq]
        omega
      have returnedWithin :
          LiveWithin (machine.environment.depth + (bound + 1))
            (machine.enter frame command callee) returned := by
        apply within.mono
        rw [environment_enter, Environment.depth_extend]
        omega
      exact entered.trans returnedWithin

theorem commands_finish
    {bound : Nat}
    {body : Composite}
    (calleesFinish : CalleesFinish functions name fuel bound)
    (isBody : functions[name]? = some (.composite body))
    (knows : machine.Knows functions frame)
    {commands : List Command}
    (members : ∀ command ∈ commands, command ∈ body.commands) :
    ∃ outcome after,
      inOrder (runCommand fuel frame) commands machine = .ok (outcome, after) ∧
        LiveWithin (machine.environment.depth + (bound + 1)) machine after := by
  induction commands generalizing machine with
  | nil => exact ⟨_, machine, rfl, .of_eq rfl⟩
  | cons command rest inductionHypothesis =>
      obtain ⟨outcome, middle, ran, within⟩ :=
        runCommand_finishes calleesFinish isBody knows (members command (by simp))
      cases outcome with
      | error failure =>
          exact ⟨_, middle,
            inOrder_cons_eq_ok_iff.mpr (.inl ⟨failure, rfl, ran⟩), within⟩
      | ok done =>
          have changed := kept_changesAlong.runCommand ran
          obtain ⟨outcome, after, restRan, restWithin⟩ :=
            inductionHypothesis (knows.of_changesAlong changed)
              (fun command member => members command (by simp [member]))
          rw [changed.toSameShape.depth] at restWithin
          exact ⟨outcome, after,
            inOrder_cons_eq_ok_iff.mpr (.inr ⟨middle, ran, restRan⟩),
            within.trans restWithin⟩

/-- A builtin function finishes in a live frame and dispatches nothing. -/
theorem builtin_finishes
    (live : machine.environment.isLive frame)
    (builtin : Builtin)
    (limit : Nat) :
    ∃ outcome after,
      machine.call fuel (.builtin builtin) frame = .ok (outcome, after) ∧
        LiveWithin limit machine after := by
  obtain ⟨outcome, after, executed⟩ :
      ∃ outcome after, machine.execute builtin frame = (outcome, after) :=
    ⟨_, _, rfl⟩
  have ran : machine.callBuiltin builtin frame = .ok (outcome, after) :=
    callBuiltin_eq_ok_iff.mpr ⟨live, executed⟩
  refine ⟨outcome, after, ?_, .of_eq (dispatches_callBuiltin ran)⟩
  rw [call_builtin, ran]

/--
Where no cycle is reachable, a call finishes, with no more frames live than those at
the start and one for each composite function that is reachable.
-/
theorem call_finishes
    (enough : (composites functions name).ncard ≤ fuel)
    (cycleFree : CycleFree functions name)
    (found : functions[name]? = some function)
    (knows : machine.Knows functions frame) :
    ∃ outcome after,
      machine.call fuel function frame = .ok (outcome, after) ∧
        LiveWithin
          (machine.environment.depth + (composites functions name).ncard)
          machine after := by
  induction fuel, function using call_induction generalizing name frame machine with
  | builtin fuel builtin => exact builtin_finishes knows.live builtin _
  | withoutFuel body =>
      have positive := ncard_composites_pos found
      omega
  | composite fuel body inductionHypothesis =>
      obtain ⟨bound, size⟩ :=
        Nat.exists_eq_succ_of_ne_zero (Nat.ne_of_gt (ncard_composites_pos found))
      -- The name itself is one of the composite functions; callees reach one fewer at most.
      have calleesFinish : CalleesFinish functions name fuel bound := by
        intro callee function frame machine calls calleeFound calleeKnows
        have fewer := ncard_composites_lt cycleFree calls
        obtain ⟨outcome, after, called, within⟩ :=
          inductionHypothesis function (by omega) (cycleFree.of_calls calls)
            calleeFound calleeKnows
        exact ⟨outcome, after, called, within.mono (by omega)⟩
      obtain ⟨inner, after, ran, within⟩ :=
        commands_finish calleesFinish found knows (fun _ member => member)
      rw [size]
      exact ⟨_, after,
        call_composite_eq_ok_iff.mpr ⟨fuel, inner, rfl, ran, rfl⟩, within⟩

/--
Where no cycle is reachable, every point that is reached has no more frames live
than those at the start and one for each composite function that is reachable.
-/
theorem Reaches.depth_le
    {layers : List String}
    {inner : Function}
    {place : Nat}
    {reached : Machine}
    (reaches : Reaches function frame machine layers inner place reached)
    (cycleFree : CycleFree functions name)
    (found : functions[name]? = some function)
    (knows : machine.Knows functions frame) :
    reached.environment.depth ≤
      machine.environment.depth + (composites functions name).ncard := by
  induction reaches generalizing name with
  | start function frame machine => exact Nat.le_add_right _ _
  | @through body frame machine middle earlier later command callee
      layers inner place reached split completed target _ inductionHypothesis =>
      obtain ⟨fuel, ran⟩ := completed
      have changed := kept_changesAlong.commands ran
      have middleKnows := knows.of_changesAlong changed
      rw [middleKnows.known] at target
      have calls : Calls functions name command.target :=
        .of_member found (by simp [split]) target
      have fewer := ncard_composites_lt cycleFree calls
      have deeper :=
        inductionHypothesis (cycleFree.of_calls calls) target
          (middleKnows.enter command callee)
      have sameDepth := changed.toSameShape.depth
      rw [environment_enter, Environment.depth_extend] at deeper
      omega

end Acyclic

/-- With that much fuel, a run of the named function succeeds where the functions are known. -/
def Succeeds
    (functions : Table Function)
    (fuel : Nat)
    (name : String) :
    Prop :=
  ∃ function frame machine after,
    functions[name]? = some function ∧
      Knows functions frame machine ∧
      machine.call fuel function frame = .ok (.ok (), after)

section Success

variable
  {functions : Table Function}
  {name other : String}
  {fuel frame : Nat}
  {machine after : Machine}
  {command : Command}

/-- The target of a command that succeeds does so too. -/
theorem succeeds_of_runCommand
    (knows : machine.Knows functions frame)
    (ran : machine.runCommand fuel frame command = .ok (.ok (), after)) :
    Succeeds functions fuel command.target := by
  obtain ⟨_, ⟨_, impossible, _⟩ | ⟨function, returned, found, called, _⟩⟩ :=
    dispatch_eq_ok_iff.mp ran
  · cases impossible
  · rw [knows.known] at found
    exact ⟨function, machine.environment.depth, machine.enter frame command function,
      returned, found, knows.enter command function, called⟩

/-- The target of every command in a list that succeeds does so too. -/
theorem succeeds_of_commands
    {commands : List Command}
    (knows : machine.Knows functions frame)
    (ran : inOrder (runCommand fuel frame) commands machine = .ok (.ok (), after))
    (member : command ∈ commands) :
    Succeeds functions fuel command.target := by
  induction commands generalizing machine with
  | nil => cases member
  | cons first rest inductionHypothesis =>
      rcases inOrder_cons_eq_ok_iff.mp ran with
          ⟨failure, impossible, _⟩ | ⟨middle, firstRan, restRan⟩
      · cases impossible
      · rcases List.mem_cons.mp member with rfl | inRest
        · exact succeeds_of_runCommand knows firstRan
        · have changed := kept_changesAlong.runCommand firstRan
          exact inductionHypothesis (knows.of_changesAlong changed) restRan inRest

namespace Succeeds

/-- Whatever a composite function that succeeds calls succeeds with less fuel. -/
theorem of_member
    {body : Composite}
    (succeeds : Succeeds functions fuel name)
    (isBody : functions[name]? = some (.composite body))
    (member : command ∈ body.commands) :
    ∃ less < fuel, Succeeds functions less command.target := by
  obtain ⟨function, frame, machine, after, found, knows, called⟩ := succeeds
  obtain rfl : function = .composite body := by
    simpa [isBody, eq_comm] using found
  obtain ⟨less, inner, rfl, ran, ended⟩ := call_composite_eq_ok_iff.mp called
  obtain rfl : inner = .ok () := by
    cases inner with
    | error failure => cases ended
    | ok done => rfl
  exact ⟨less, Nat.lt_succ_self less, succeeds_of_commands knows ran member⟩

/-- What is called from a function that succeeds does so with less fuel. -/
theorem of_transGen
    (path : TransGen (Calls functions) name other)
    (succeeds : Succeeds functions fuel name) :
    ∃ less < fuel, Succeeds functions less other := by
  induction path with
  | single calls =>
      obtain ⟨body, command, isBody, member, rfl, _⟩ := calls
      exact succeeds.of_member isBody member
  | tail _ calls inductionHypothesis =>
      obtain ⟨body, command, isBody, member, rfl, _⟩ := calls
      obtain ⟨between, fewer, middleSucceeds⟩ := inductionHypothesis
      obtain ⟨less, lessFuel, targetSucceeds⟩ :=
        middleSucceeds.of_member isBody member
      exact ⟨less, Nat.lt_trans lessFuel fewer, targetSucceeds⟩

/-- What is reached from a function that succeeds does so. -/
theorem of_reachable
    (reached : Reachable functions name other)
    (succeeds : Succeeds functions fuel name) :
    ∃ less, Succeeds functions less other := by
  rcases reflTransGen_iff_eq_or_transGen.mp reached with rfl | path
  · exact ⟨fuel, succeeds⟩
  · obtain ⟨less, _, otherSucceeds⟩ := succeeds.of_transGen path
    exact ⟨less, otherSucceeds⟩

/--
A function that succeeds lies on no cycle: going round, it would succeed with less
and less fuel.
-/
theorem not_transGen
    (succeeds : Succeeds functions fuel name) :
    ¬TransGen (Calls functions) name name := by
  intro cycle
  induction fuel using Nat.strongRecOn with
  | ind fuel inductionHypothesis =>
      obtain ⟨less, lessFuel, again⟩ := succeeds.of_transGen cycle
      exact inductionHypothesis less lessFuel again

/-- From a function that succeeds, no cycle is reached. -/
theorem cycleFree
    (succeeds : Succeeds functions fuel name) :
    CycleFree functions name := by
  intro other reached
  obtain ⟨less, otherSucceeds⟩ := succeeds.of_reachable reached
  exact otherSucceeds.not_transGen

/-- From a function that succeeds, only commands with bound targets are reached. -/
theorem targetsBound
    (succeeds : Succeeds functions fuel name) :
    TargetsBound functions name := by
  intro other body command reached isBody member
  obtain ⟨between, otherSucceeds⟩ := succeeds.of_reachable reached
  obtain ⟨less, _, function, _, _, _, found, _, _⟩ :=
    otherSucceeds.of_member isBody member
  rw [Std.ExtTreeMap.mem_iff_isSome_getElem?, found]
  rfl

end Succeeds

end Success

section Scripts

variable
  (machine : Machine)
  (script : Script)

/-- The functions that the commands of a script can call. -/
def callable : Table Function :=
  (machine.merge script).environment.functions Environment.root

@[simp] theorem depth_merge :
    (machine.merge script).environment.depth = machine.environment.depth := by
  simp [merge, record, Environment.overlayRoot, Environment.modifyFrame,
    Environment.depth]

@[simp] theorem dispatches_merge :
    (machine.merge script).dispatches = machine.dispatches := by
  simp [merge, record, dispatches, Event.dispatch?]

variable {machine script}

/-- The root frame knows what a script can call, if that is anything. -/
theorem knows_callable
    {name : String}
    {function : Function}
    (found : (machine.callable script)[name]? = some function) :
    (machine.merge script).Knows (machine.callable script) Environment.root := by
  have live : (machine.merge script).environment.isLive Environment.root := by
    rw [Environment.isLive_iff]
    refine Nat.lt_of_not_le fun dead => ?_
    rw [callable, Environment.functions_of_depth_le dead] at found
    simp at found
  refine ⟨live, fun name => ?_⟩
  simp [Environment.function?, Environment.Reach.frames, Environment.chain_root live,
    callable]

/-- A finished script found no function `init`, or ran the one it found. -/
theorem runScript_eq_ok_iff
    {fuel : Nat}
    {outcome : Outcome}
    {after : Machine} :
    machine.runScript fuel script = .ok (outcome, after) ↔
      ((machine.callable script)[initName]? = none ∧
          outcome = .error .missingInit ∧
          after = machine.merge script) ∨
        ∃ function,
          (machine.callable script)[initName]? = some function ∧
            (machine.merge script).call fuel function Environment.root =
              .ok (outcome, after) := by
  have lookup :
      (machine.merge script).environment.function? .own Environment.root initName =
        (machine.callable script)[initName]? := by
    simp [Environment.function?, Environment.Reach.frames, callable]
  simp only [runScript, lookup]
  cases (machine.callable script)[initName]? with
  | none => simp [eq_comm]
  | some function => simp

/--
The functions that a script can call decide whether it finishes. If `init` reaches
no cycle, the script finishes, and at no point are more frames live than those at
the start and one for each composite function that `init` reaches. If the script
succeeds, `init` reaches no cycle, and calls bound names only.
-/
theorem runScript_finishes_of_callable
    (machine : Machine)
    (script : Script) :
    (CycleFree (machine.callable script) initName →
      (∃ outcome after,
        Finishes (fun fuel => machine.runScript fuel script) outcome after ∧
          LiveWithin
            (machine.environment.depth +
              (composites (machine.callable script) initName).ncard)
            machine after) ∧
      ∀ function layers inner place reached,
        (machine.callable script)[initName]? = some function →
          Reaches function Environment.root (machine.merge script)
              layers inner place reached →
            reached.environment.depth ≤
              machine.environment.depth +
                (composites (machine.callable script) initName).ncard) ∧
    ∀ after,
      Finishes (fun fuel => machine.runScript fuel script) (.ok ()) after →
        CycleFree (machine.callable script) initName ∧
          TargetsBound (machine.callable script) initName := by
  have merged (limit : Nat) : LiveWithin limit machine (machine.merge script) :=
    .of_eq (dispatches_merge machine script)
  refine ⟨fun cycleFree => ⟨?finishes, ?points⟩, ?succeeds⟩
  case finishes =>
    cases found : (machine.callable script)[initName]? with
    | none =>
        exact ⟨_, _, ⟨0, runScript_eq_ok_iff.mpr (.inl ⟨found, rfl, rfl⟩)⟩, merged _⟩
    | some function =>
        obtain ⟨outcome, after, called, within⟩ :=
          call_finishes (Nat.le_refl _) cycleFree found (knows_callable found)
        rw [depth_merge] at within
        exact ⟨outcome, after,
          ⟨_, runScript_eq_ok_iff.mpr (.inr ⟨function, found, called⟩)⟩,
          (merged _).trans within⟩
  case points =>
    intro function layers inner place reached found reaches
    have below := reaches.depth_le cycleFree found (knows_callable found)
    rwa [depth_merge] at below
  case succeeds =>
    rintro after ⟨fuel, ran⟩
    rcases runScript_eq_ok_iff.mp ran with
        ⟨_, impossible, _⟩ | ⟨function, found, called⟩
    · cases impossible
    · have succeeds : Succeeds (machine.callable script) fuel initName :=
        ⟨function, _, _, after, found, knows_callable found, called⟩
      exact ⟨succeeds.cycleFree, succeeds.targetsBound⟩

/-- A script whose `init` calls a function that prints. -/
def greeting : Script where
  functions :=
    (Function.builtins.insert "greet"
      (.composite ⟨"greet", [⟨"print", [⟨"value", .literal "hello"⟩]⟩]⟩)).insert
        initName (.composite ⟨initName, [⟨"greet", []⟩]⟩)
  «variables» := ∅

/-- The greeting reaches no cycle, so the frames that are live with it are bounded. -/
theorem greeting_finishes :
    CycleFree (bare.callable greeting) initName ∧
      TargetsBound (bare.callable greeting) initName ∧
      ∃ outcome after,
        Finishes (fun fuel => bare.runScript fuel greeting) outcome after ∧
          LiveWithin
            (bare.environment.depth +
              (composites (bare.callable greeting) initName).ncard)
            bare after := by
  have succeeds :
      (bare.runScript 2 greeting).toOption.map (fun ended => ended.1.isOk) =
        some true := by
    decide +kernel
  obtain ⟨outcome, after, ran, isOk⟩ := exists_of_observed succeeds
  obtain rfl := eq_ok_of_isOk isOk
  obtain ⟨whenAcyclic, whenOk⟩ := runScript_finishes_of_callable bare greeting
  obtain ⟨cycleFree, targetsBound⟩ := whenOk after ⟨2, ran⟩
  exact ⟨cycleFree, targetsBound, (whenAcyclic cycleFree).1⟩

end Scripts

end FunctionScript.Machine
