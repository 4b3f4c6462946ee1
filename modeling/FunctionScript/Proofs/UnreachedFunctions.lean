import FunctionScript.Proofs.CommandGrammar
import FunctionScript.Proofs.Locality
import FunctionScript.Proofs.Termination

namespace FunctionScript

/-!
# Functions that `init` does not reach

A run looks functions up under the targets of its commands only. Which names these
can be is settled before the run: they are reached from `init` over targets, among
the functions that the script can call. What a script has under any other name, and
whether it has anything there, makes no difference to what its run does and shows.
-/

open Relation

namespace CallGraph

/-- The composite function of one name has a command whose target is the other, bound or not. -/
def Mentions
    (functions : Table Function)
    (caller target : String) :
    Prop :=
  ∃ body command,
    functions[caller]? = some (.composite body) ∧
      command ∈ body.commands ∧
      command.target = target

/-- One name is reached from another through the targets of commands. -/
def ReachedByTargets
    (functions : Table Function) :
    String →
    String →
    Prop :=
  ReflTransGen (Mentions functions)

/-- Names that mention each other only are all that is reached from one of them. -/
theorem mem_of_reachedByTargets
    {functions : Table Function}
    {start name : String}
    (names : List String)
    (member : start ∈ names)
    (mentioned :
      ∀ caller ∈ names, ∀ body : Composite,
        functions[caller]? = some (.composite body) →
          ∀ command ∈ body.commands, command.target ∈ names)
    (reached : ReachedByTargets functions start name) :
    name ∈ names := by
  induction reached with
  | refl => exact member
  | tail _ mentions inductionHypothesis =>
      obtain ⟨body, command, isBody, inBody, rfl⟩ := mentions
      exact mentioned _ inductionHypothesis body isBody command inBody

end CallGraph

open CallGraph

namespace View

theorem inOrder_congr
    {step other : α → View → Run}
    {items : List α}
    (same : ∀ item ∈ items, ∀ view, step item view = other item view)
    (view : View) :
    inOrder step items view = inOrder other items view := by
  induction items generalizing view with
  | nil => rfl
  | cons first rest inductionHypothesis =>
      have sameRest := inductionHypothesis fun item member => same item (by simp [member])
      simp only [inOrder, same first (by simp) view, sameRest]

/--
Functions run alike among different known functions, if these are the same under every
target that their commands, and those of the functions they call, have.
-/
theorem call_congr_known
    {known other : String → Option Function}
    {admits : Function → Prop}
    (sameKnown :
      ∀ body, admits (.composite body) →
        ∀ command ∈ body.commands, known command.target = other command.target)
    (admitsCallee :
      ∀ body, admits (.composite body) →
        ∀ command ∈ body.commands, ∀ callee,
          known command.target = some callee → admits callee)
    (fuel : Nat)
    {function : Function}
    (admitted : admits function)
    (view : View) :
    call known fuel function view = call other fuel function view := by
  induction fuel, function using Machine.call_induction generalizing view with
  | builtin fuel builtin => rw [call_builtin, call_builtin]
  | withoutFuel body => rfl
  | composite fuel body inductionHypothesis =>
      have sameCommands :
          inOrder (dispatch known (call known fuel)) body.commands view =
            inOrder (dispatch other (call other fuel)) body.commands view := by
        apply inOrder_congr
        intro command member view
        have sameFound := sameKnown body admitted command member
        rw [dispatch, dispatch, ← sameFound]
        cases found : known command.target with
        | none => rfl
        | some callee =>
            have calleeAdmitted := admitsCallee body admitted command member callee found
            simp only [inductionHypothesis callee calleeAdmitted]
      simp only [call, sameCommands]

end View

/--
The scripts have the same variables, and the same function, or none, under each of the
names; under any other name one of them may have a function that the other lacks or
has a different function for.
-/
structure Script.DifferAside
    (names : String → Prop)
    (script other : Script) :
    Prop where
  «variables» : script.variables = other.variables
  functions :
    ∀ name, names name → script.functions[name]? = other.functions[name]?

namespace Machine

/-- The machines show the same output and the same variables in the same frames. -/
structure ShowAlike
    (first second : Machine) :
    Prop where
  sink : first.sink = second.sink
  depth : first.environment.depth = second.environment.depth
  parents :
    ∀ place, first.environment.parent? place = second.environment.parent? place
  «variables» :
    ∀ place, first.environment.variables place = second.environment.variables place

namespace ShowAlike

variable
  {first second : Machine}

theorem chain
    (alike : ShowAlike first second)
    (frame : Nat) :
    first.environment.chain frame = second.environment.chain frame := by
  apply Environment.chain_congr
  · intro place _
    simp only [Environment.isLive, alike.depth]
  · intro place _
    exact alike.parents place

theorem view
    (alike : ShowAlike first second)
    (frame : Nat) :
    first.view frame = second.view frame := by
  have sameVariables : first.environment.variables = second.environment.variables :=
    funext alike.variables
  simp only [Machine.view, Environment.scopes, alike.chain, sameVariables, alike.sink]

/-- Changes along a frame's chain lead to machines that show the same if the frame sees the same. -/
theorem of_changesAlong
    {frame : Nat}
    {firstAfter secondAfter : Machine}
    (alike : ShowAlike first second)
    (firstChanged :
      Environment.ChangesAlong frame first.environment firstAfter.environment)
    (secondChanged :
      Environment.ChangesAlong frame second.environment secondAfter.environment)
    (sameView : firstAfter.view frame = secondAfter.view frame) :
    ShowAlike firstAfter secondAfter where
  sink := congrArg View.sink sameView
  depth := by
    rw [firstChanged.depth, secondChanged.depth, alike.depth]
  parents := by
    intro place
    rw [firstChanged.parents, secondChanged.parents, alike.parents]
  «variables» := by
    have sameScopes := congrArg View.scopes sameView
    simp only [Machine.view, Environment.scopes, firstChanged.toSameShape.chain,
      secondChanged.toSameShape.chain, ← alike.chain] at sameScopes
    intro place
    by_cases onChain : place ∈ first.environment.chain frame
    · exact List.map_inj_left.mp sameScopes place onChain
    · have outside : place ∉ second.environment.chain frame := by
        rwa [← alike.chain]
      rw [firstChanged.offChain place onChain, secondChanged.offChain place outside,
        alike.variables]

end ShowAlike

section Scripts

variable
  {machine : Machine}
  {script other : Script}
  {names : String → Prop}

/-- Laid over the root, the scripts differ aside of the names, and show the same. -/
theorem showAlike_merge
    (machine : Machine)
    (differ : script.DifferAside names other) :
    ShowAlike (machine.merge script) (machine.merge other) where
  sink := rfl
  depth := by simp
  parents := by simp [merge]
  «variables» := by
    intro place
    simp only [merge, record, differ.variables]
    by_cases live : machine.environment.isLive Environment.root
    · rw [Environment.variables_overlayRoot _ _ _ live,
        Environment.variables_overlayRoot _ _ _ live]
    · have dead : machine.environment.depth ≤ Environment.root := by
        simpa [Environment.isLive_iff] using live
      have nothing
          (functions : Table Function) :
          (machine.environment.overlayRoot functions other.variables).variables place =
            ∅ := by
        apply Environment.variables_of_depth_le
        rw [Environment.depth_overlayRoot]
        exact Nat.le_trans dead (Nat.zero_le place)
      rw [nothing, nothing]

theorem callable_eq
    (differ : script.DifferAside names other)
    {name : String}
    (isName : names name) :
    (machine.callable script)[name]? = (machine.callable other)[name]? := by
  simp only [callable, merge, record]
  by_cases live : machine.environment.isLive Environment.root
  · simp only [Environment.functions_overlayRoot _ _ _ live, ↓reduceIte,
      Std.ExtTreeMap.getElem?_union, differ.functions name isName]
  · have dead : machine.environment.depth ≤ Environment.root := by
      simpa [Environment.isLive_iff] using live
    rw [Environment.functions_of_depth_le (by simpa using dead),
      Environment.functions_of_depth_le (by simpa using dead)]

/-- A script that finds no `init` fails for want of it. -/
theorem runScript_of_missing
    (missing : (machine.callable script)[initName]? = none)
    (fuel : Nat) :
    machine.runScript fuel script = .ok (.error .missingInit, machine.merge script) :=
  runScript_eq_ok_iff.mpr (.inl ⟨missing, rfl, rfl⟩)

/-- A script that finds an `init` runs it in the root. -/
theorem runScript_of_found
    {init : Function}
    (found : (machine.callable script)[initName]? = some init)
    (fuel : Nat) :
    machine.runScript fuel script =
      (machine.merge script).call fuel init Environment.root := by
  have lookup :
      (machine.merge script).environment.function? .own Environment.root initName =
        some init := by
    rw [← found]
    simp [Environment.function?, Environment.Reach.frames, callable]
  simp only [runScript, lookup]

/-- From the root, `init` runs alike whichever of the scripts is laid over it. -/
theorem seenFrom_init
    (differ :
      script.DifferAside (ReachedByTargets (machine.callable script) initName) other)
    {init : Function}
    (found : (machine.callable script)[initName]? = some init)
    (otherFound : (machine.callable other)[initName]? = some init)
    (fuel : Nat) :
    Run.seenFrom Environment.root
        ((machine.merge script).call fuel init Environment.root) =
      Run.seenFrom Environment.root
        ((machine.merge other).call fuel init Environment.root) := by
  have knows := knows_callable found
  have otherKnows := knows_callable otherFound
  rw [seenFrom_call knows.live, seenFrom_call otherKnows.live,
    (showAlike_merge machine differ).view]
  -- What can come to run are the functions under names that are reached.
  let isReached (function : Function) : Prop :=
    ∃ name,
      ReachedByTargets (machine.callable script) initName name ∧
        (machine.callable script)[name]? = some function
  have admitted : isReached init := ⟨initName, .refl, found⟩
  refine View.call_congr_known ?_ ?_ fuel admitted _
  · rintro body ⟨name, reached, isBody⟩ command member
    have targetReached := reached.tail ⟨body, command, isBody, member, rfl⟩
    rw [known, known, knows.known, otherKnows.known, callable_eq differ targetReached]
  · rintro body ⟨name, reached, isBody⟩ command member callee calleeFound
    rw [known, knows.known] at calleeFound
    exact ⟨command.target, reached.tail ⟨body, command, isBody, member, rfl⟩, calleeFound⟩

/--
What a script has under names that `init` does not reach does not matter: with any
other functions there, or with none, it ends alike, and leaves a machine that shows
the same.
-/
theorem runScript_ignores_unreached
    (differ :
      script.DifferAside (ReachedByTargets (machine.callable script) initName) other) :
    EndAlike
      (fun fuel => machine.runScript fuel script)
      (fun fuel => machine.runScript fuel other)
      ShowAlike := by
  have sameMerged := showAlike_merge machine differ
  have sameInit :
      (machine.callable script)[initName]? = (machine.callable other)[initName]? :=
    callable_eq differ .refl
  cases found : (machine.callable script)[initName]? with
  | none =>
      have otherMissing : (machine.callable other)[initName]? = none := by
        rw [← sameInit, found]
      simp only [runScript_of_missing found, runScript_of_missing otherMissing]
      refine ⟨⟨fun _ => ⟨_, _, 0, rfl⟩, fun _ => ⟨_, _, 0, rfl⟩⟩, ?_⟩
      rintro _ _ _ _ ⟨_, firstRan⟩ ⟨_, secondRan⟩
      cases firstRan
      cases secondRan
      exact ⟨rfl, sameMerged⟩
  | some init =>
      have otherFound : (machine.callable other)[initName]? = some init := by
        rw [← sameInit, found]
      simp only [runScript_of_found found, runScript_of_found otherFound]
      have sameSeen :=
        EndAlike.of_related (fun _ _ _ => call_mono) fun fuel =>
          View.Run.Related.of_eq (seenFrom_init differ found otherFound fuel)
      apply sameSeen.imp
      intro _ firstAfter _ secondAfter ⟨_, firstRan⟩ ⟨_, secondRan⟩ sameView
      exact sameMerged.of_changesAlong (kept_changesAlong.call firstRan)
        (kept_changesAlong.call secondRan) sameView

end Scripts

/-- A script that prints a variable through a function, and has another one besides. -/
def greetAndSpare : ByteArray :=
  "\x7b\"x\": 1, \"init\": [\x7b\"cmd\": \"greet\", \"who\": \"#x\"\x7d], \"greet\": [\x7b\"cmd\": \"print\", \"value\": \"$who\"\x7d], \"spare\": [\x7b\"cmd\": \"greet\"\x7d]\x7d".toUTF8

/-- The script without its spare function, and with another one in place of a builtin. -/
def withoutSpare
    (script : Script) :
    Script :=
  { script with
    functions :=
      (script.functions.erase "spare").insert "delete"
        (.composite ⟨"delete", [⟨"nowhere", []⟩]⟩) }

/-- Neither the spare function nor the builtin one that was replaced is missed. -/
theorem greetAndSpare_unreached :
    ∃ script,
      Script.ofSource greetAndSpare = .ok script ∧
        "spare" ∈ script.functions ∧
        "spare" ∉ (withoutSpare script).functions ∧
        script.DifferAside (ReachedByTargets (bare.callable script) initName)
          (withoutSpare script) ∧
        ∃ after otherAfter,
          Finishes (fun fuel => bare.runScript fuel script) (.ok ()) after ∧
            Finishes (fun fuel => bare.runScript fuel (withoutSpare script))
              (.ok ()) otherAfter ∧
            after.sink.written = "1.0000\n".toUTF8 ∧
            ShowAlike after otherAfter := by
  have calls :
      (Script.ofSource greetAndSpare).toOption.map
          (fun script =>
            ["init", "greet", "print"].map fun name =>
              (bare.callable script)[name]?) =
        some
          [some (.composite ⟨"init", [⟨"greet", [⟨"who", .ref "x"⟩]⟩]⟩),
            some (.composite ⟨"greet", [⟨"print", [⟨"value", .param "who"⟩]⟩]⟩),
            some (.builtin .print)] := by
    decide +kernel
  have prints :
      (Script.ofSource greetAndSpare).toOption.map
          (fun script =>
            (script.functions.contains "spare",
              (bare.runScript 2 script).toOption.map fun ended =>
                (ended.1.isOk, ended.2.sink.written))) =
        some (true, some (true, "1.0000\n".toUTF8)) := by
    decide +kernel
  obtain ⟨script, accepted, bound⟩ := exists_eq_ok_of_observed calls
  simp only [List.map_cons, List.map_nil, List.cons.injEq, and_true] at bound
  obtain ⟨isInit, isGreet, isPrint⟩ := bound
  simp only [accepted, Except.toOption, Option.map_some, Option.some.injEq,
    Prod.mk.injEq] at prints
  obtain ⟨hasSpare, ends⟩ := prints
  have differ :
      script.DifferAside (ReachedByTargets (bare.callable script) initName)
        (withoutSpare script) := by
    refine ⟨rfl, fun name reached => ?_⟩
    have member : name ∈ ["init", "greet", "print"] := by
      apply mem_of_reachedByTargets _ (by simp [initName]) ?_ reached
      simp [isInit, isGreet, isPrint]
    have notSpare : "spare" ≠ name := by
      rintro rfl
      simp at member
    have notDelete : "delete" ≠ name := by
      rintro rfl
      simp at member
    simp [withoutSpare, Table.getElem?_insert_eq, Table.getElem?_erase_eq, notSpare,
      notDelete]
  obtain ⟨outcome, after, ran, isOkAndWritten⟩ := exists_of_observed ends
  obtain ⟨isOk, written⟩ := Prod.mk.inj isOkAndWritten
  obtain rfl := eq_ok_of_isOk isOk
  have finishes : Finishes (fun fuel => bare.runScript fuel script) (.ok ()) after :=
    ⟨2, ran⟩
  have endAlike := runScript_ignores_unreached differ
  obtain ⟨otherOutcome, otherAfter, otherFinishes⟩ :=
    endAlike.returns.mp ⟨_, _, finishes⟩
  obtain ⟨rfl, showAlike⟩ := endAlike.agree _ _ _ _ finishes otherFinishes
  refine ⟨script, accepted, Std.ExtTreeMap.contains_iff_mem.mp hasSpare, ?_, differ, after,
    otherAfter, finishes, otherFinishes, written, showAlike⟩
  simp [withoutSpare]

end Machine

end FunctionScript
