import FunctionScript.FileTree
import FunctionScript.Proofs.FailurePath
import FunctionScript.Proofs.FirstFault

namespace FunctionScript

/-!
# Batches in parts

A batch runs its files one after another on one machine, so running a list of files
that is put together is running its parts in turn, as long as none fails. It fails
exactly if one of its files does: if the file cannot be read, if it is no script, or
if its script fails. The failure is that of the first such file, in one layer with the
path of it; what was done up to there stays, and nothing behind it counts.
-/

namespace Failure

/-- The paths of the scripts that a failure left, the outermost first. -/
def scriptPaths :
    Failure →
    List String
  | inFunction _ cause => cause.scriptPaths
  | inScript path cause => path :: cause.scriptPaths
  | _ => []

theorem scriptPaths_of_isCause
    {failure : Failure}
    (isCause : failure.IsCause) :
    failure.scriptPaths = [] := by
  cases failure with
  | inFunction _ _ | inScript _ _ => exact isCause.elim
  | _ => rfl

@[simp] theorem scriptPaths_within
    (layers : List String)
    (cause : Failure) :
    (within layers cause).scriptPaths = cause.scriptPaths := by
  induction layers with
  | nil => rfl
  | cons name rest inductionHypothesis => exact inductionHypothesis

/-- The message of a failure that left a script names the script, and goes on as before. -/
theorem message_inScript
    (path : String)
    (cause : Failure) :
    (inScript path cause).message =
      "failed to run script " ++ Text.quoted path ++ ": " ++ cause.message := by
  rw [message_eq, message_eq,
    ← String.intercalate_cons_of_ne_nil cause.layerMessages_ne_nil]
  rfl

end Failure

/-- A source that is refused is refused for a cause. -/
theorem Script.isCause_of_ofSource
    {source : ByteArray}
    {failure : Failure}
    (refused : ofSource source = .error failure) :
    failure.IsCause := by
  rcases ofSource_eq_error_iff.mp refused with
    ⟨_, _, rfl⟩ | ⟨members, _, fault⟩
  · trivial
  · cases fault with
    | missingInit => trivial
    | declaration _ inDeclaration _ =>
        cases inDeclaration with
        | notANumber => trivial
        | entry _ inEntry =>
            cases inEntry with
            | notAnObject => trivial
            | members inMembers => cases inMembers <;> trivial

namespace Machine

section Append

variable
  {step : α → Machine → Run}
  {machine after : Machine}
  {outcome : Outcome}

/-- A list that is put together fails in its first part, or goes on with its second. -/
theorem inOrder_append_eq_ok_iff
    {earlier later : List α} :
    inOrder step (earlier ++ later) machine = .ok (outcome, after) ↔
      (∃ failure,
        outcome = .error failure ∧
          inOrder step earlier machine = .ok (.error failure, after)) ∨
      (∃ middle,
        inOrder step earlier machine = .ok (.ok (), middle) ∧
          inOrder step later middle = .ok (outcome, after)) := by
  induction earlier generalizing machine with
  | nil => simp [inOrder]
  | cons first rest inductionHypothesis =>
      simp only [List.cons_append, inOrder_cons_eq_ok_iff, inductionHypothesis]
      grind

end Append

section Files

variable
  {machine before middle after : Machine}
  {files : FileStore}
  {path : OsText}
  {source : ByteArray}
  {script : Script}
  {outcome : Outcome}
  {cause : Failure}
  {fuel more : Nat}

/-- The machine on which the script of a file runs: reading the file has only been logged. -/
def opened
    (path : OsText)
    (source : ByteArray)
    (machine : Machine) :
    Machine :=
  (machine.record (.running path.display)).recordAll (Script.eventsOfSource source)

/-- A source that is read as a script runs as that script, and any other one fails. -/
theorem runSource_eq
    (fuel : Nat)
    (source : ByteArray)
    (machine : Machine) :
    machine.runSource fuel source =
      match Script.ofSource source with
      | .ok script =>
          (machine.recordAll (Script.eventsOfSource source)).runScript fuel script
      | .error failure =>
          .ok (.error failure, machine.recordAll (Script.eventsOfSource source)) := by
  rw [runSource, Script.ofSource, Script.eventsOfSource]
  cases Script.readDocument source with
  | error malformed => simp [Except.bind, recordAll]
  | ok document => rfl

/-- How a file ends that is run on a machine, apart from the layer that its failure is put into. -/
inductive FileEnds
    (files : FileStore)
    (path : OsText)
    (before : Machine) :
    Outcome →
    Machine →
    Prop where
  | unreadable
      {reason : String}
      (nothing : files path = .error reason) :
      FileEnds files path before (.error (.inputOutput reason))
        (before.record (.running path.display))
  | refused
      {source : ByteArray}
      {cause : Failure}
      (found : files path = .ok source)
      (refused : Script.ofSource source = .error cause) :
      FileEnds files path before (.error cause) (before.opened path source)
  | ran
      {source : ByteArray}
      {script : Script}
      {outcome : Outcome}
      {after : Machine}
      (found : files path = .ok source)
      (accepted : Script.ofSource source = .ok script)
      (finishes :
        Finishes (fun fuel => (before.opened path source).runScript fuel script)
          outcome after) :
      FileEnds files path before outcome after

/-- A file ends as its script does, its failure in a layer with its path. -/
theorem finishes_runFile_iff :
    Finishes (fun fuel => before.runFile fuel files path) outcome after ↔
      ∃ inner,
        outcome = inner.mapError (.inScript path.display) ∧
          FileEnds files path before inner after := by
  constructor
  · rintro ⟨fuel, ran⟩
    simp only [runFile, Run.annotate, map_eq_ok_iff, Prod.mk.injEq] at ran
    obtain ⟨⟨inner, _⟩, ended, rfl, rfl⟩ := ran
    refine ⟨inner, rfl, ?_⟩
    cases found : files path with
    | error reason =>
        rw [found] at ended
        cases ended
        exact .unreadable found
    | ok source =>
        simp only [found, runSource_eq] at ended
        cases read : Script.ofSource source with
        | error cause =>
            rw [read] at ended
            cases ended
            exact .refused found read
        | ok script =>
            rw [read] at ended
            exact .ran found read ⟨fuel, ended⟩
  · rintro ⟨inner, rfl, ends⟩
    cases ends with
    | unreadable nothing => exact ⟨0, by simp only [runFile, nothing]; rfl⟩
    | refused found refused =>
        exact ⟨0, by simp only [runFile, found, runSource_eq, refused]; rfl⟩
    | ran found accepted finishes =>
        obtain ⟨fuel, ran⟩ := finishes
        rw [opened] at ran
        exact ⟨fuel, by simp only [runFile, found, runSource_eq, accepted, ran]; rfl⟩

section Fuel

variable
  {result : Outcome × Machine}
  (enough : fuel ≤ more)

include enough

theorem runScript_mono
    (finished : machine.runScript fuel script = .ok result) :
    machine.runScript more script = .ok result := by
  obtain ⟨outcome, after⟩ := result
  rw [runScript_eq_ok_iff] at finished ⊢
  rcases finished with missing | ⟨function, found, called⟩
  · exact .inl missing
  · exact .inr ⟨function, found, call_mono enough called⟩

theorem runFile_mono
    (finished : machine.runFile fuel files path = .ok result) :
    machine.runFile more files path = .ok result := by
  simp only [runFile, Run.annotate, map_eq_ok_iff] at finished ⊢
  obtain ⟨ended, ran, annotated⟩ := finished
  refine ⟨ended, ?_, annotated⟩
  cases found : files path with
  | error reason => simpa only [found] using ran
  | ok source =>
      simp only [found, runSource_eq] at ran ⊢
      cases read : Script.ofSource source with
      | error cause => simpa only [read] using ran
      | ok script =>
          rw [read] at ran
          exact runScript_mono enough ran

theorem runFiles_mono
    {paths : List OsText}
    (finished : machine.runFiles fuel files paths = .ok result) :
    machine.runFiles more files paths = .ok result :=
  inOrder_mono (fun _ _ _ => runFile_mono enough) finished

end Fuel

/-- Files that are run in turn run as their parts do, the second if the first completes. -/
theorem finishes_runFiles_append_iff
    {earlier later : List OsText} :
    Finishes (fun fuel => machine.runFiles fuel files (earlier ++ later)) outcome after ↔
      (∃ failure,
        outcome = .error failure ∧
          Finishes (fun fuel => machine.runFiles fuel files earlier)
            (.error failure) after) ∨
      (∃ middle,
        Finishes (fun fuel => machine.runFiles fuel files earlier) (.ok ()) middle ∧
          Finishes (fun fuel => middle.runFiles fuel files later) outcome after) := by
  constructor
  · rintro ⟨fuel, ran⟩
    rcases inOrder_append_eq_ok_iff.mp ran with
      ⟨failure, isFailure, failed⟩ | ⟨middle, completed, laterRan⟩
    · exact .inl ⟨failure, isFailure, fuel, failed⟩
    · exact .inr ⟨middle, ⟨fuel, completed⟩, fuel, laterRan⟩
  · rintro (⟨failure, isFailure, fuel, failed⟩ |
      ⟨middle, ⟨fuel, completed⟩, more, ran⟩)
    · exact ⟨fuel, inOrder_append_eq_ok_iff.mpr (.inl ⟨failure, isFailure, failed⟩)⟩
    · have completedLater := runFiles_mono (Nat.le_max_left fuel more) completed
      have ranLater := runFiles_mono (Nat.le_max_right fuel more) ran
      exact ⟨_, inOrder_append_eq_ok_iff.mpr (.inr ⟨middle, completedLater, ranLater⟩)⟩

/-- A file fails behind others that have completed. -/
structure FailsBehind
    (files : FileStore)
    (machine : Machine)
    (earlier : List OsText)
    (path : OsText)
    (before : Machine)
    (cause : Failure)
    (after : Machine) :
    Prop where
  completed :
    Finishes (fun fuel => machine.runFiles fuel files earlier) (.ok ()) before
  fails : FileEnds files path before (.error cause) after

/-- A batch fails exactly if one of its files fails behind others that have completed. -/
theorem finishes_runFiles_error_iff
    {paths : List OsText}
    {failure : Failure} :
    Finishes (fun fuel => machine.runFiles fuel files paths) (.error failure) after ↔
      ∃ earlier path later before cause,
        paths = earlier ++ path :: later ∧
          failure = .inScript path.display cause ∧
          FailsBehind files machine earlier path before cause after := by
  constructor
  · rintro ⟨fuel, ran⟩
    obtain ⟨earlier, path, later, before, split, completed, failed⟩ :=
      inOrder_eq_error_iff.mp ran
    obtain ⟨inner, isFailure, ends⟩ := finishes_runFile_iff.mp ⟨fuel, failed⟩
    cases inner with
    | ok done => cases isFailure
    | error cause =>
        exact ⟨earlier, path, later, before, cause, split, Except.error.inj isFailure,
          ⟨fuel, completed⟩, ends⟩
  · rintro ⟨earlier, path, later, before, cause, rfl, rfl, ⟨fuel, completed⟩, fails⟩
    obtain ⟨more, failed⟩ := finishes_runFile_iff.mpr ⟨_, rfl, fails⟩
    have completedLater := runFiles_mono (Nat.le_max_left fuel more) completed
    have failedLater := runFile_mono (Nat.le_max_right fuel more) failed
    exact ⟨_, inOrder_eq_error_iff.mpr
      ⟨earlier, path, later, before, rfl, completedLater, failedLater⟩⟩

/-- Of the files in a store, a batch depends on those of its own paths. -/
theorem runFiles_congr
    {store : FileStore}
    {paths : List OsText}
    (same : ∀ path ∈ paths, store path = files path)
    (fuel : Nat)
    (machine : Machine) :
    machine.runFiles fuel store paths = machine.runFiles fuel files paths := by
  induction paths generalizing machine with
  | nil => rfl
  | cons first rest inductionHypothesis =>
      have sameRest :=
        inductionHypothesis fun path inRest => same path (by simp [inRest])
      have sameFirst : machine.runFile fuel store first = machine.runFile fuel files first := by
        simp only [runFile, same first (by simp)]
      simp only [runFiles] at sameRest ⊢
      simp only [inOrder, sameFirst, sameRest]

theorem FileEnds.depth
    (ends : FileEnds files path before outcome after) :
    after.environment.depth = before.environment.depth := by
  cases ends with
  | unreadable _ | refused _ _ => rfl
  | ran _ _ finishes =>
      obtain ⟨_, ran⟩ := finishes
      rw [(sameShape_runScript ran).depth, depth_merge]
      rfl

/-- A batch keeps what every file keeps. -/
theorem runFiles_keeps
    (keeps : Machine → Machine → Prop)
    (refl : ∀ machine, keeps machine machine)
    (trans :
      ∀ {before middle after},
        keeps before middle → keeps middle after → keeps before after)
    (fileKeeps :
      ∀ {path before outcome after},
        FileEnds files path before outcome after → keeps before after)
    {paths : List OsText}
    (ran : machine.runFiles fuel files paths = .ok (outcome, after)) :
    keeps machine after := by
  induction paths generalizing machine with
  | nil =>
      cases ran
      exact refl _
  | cons first rest inductionHypothesis =>
      rcases inOrder_cons_eq_ok_iff.mp ran with
        ⟨failure, _, failed⟩ | ⟨middle, completed, restRan⟩
      · obtain ⟨_, _, ends⟩ := finishes_runFile_iff.mp ⟨fuel, failed⟩
        exact fileKeeps ends
      · obtain ⟨_, _, ends⟩ := finishes_runFile_iff.mp ⟨fuel, completed⟩
        exact trans (fileKeeps ends) (inductionHypothesis restRan)

/-- A batch leaves as many frames as it finds, so there still is a root. -/
theorem depth_runFiles
    {paths : List OsText}
    (ran : machine.runFiles fuel files paths = .ok (outcome, after)) :
    after.environment.depth = machine.environment.depth := by
  let keeps (before after : Machine) : Prop :=
    after.environment.depth = before.environment.depth
  exact runFiles_keeps keeps (fun _ => rfl) (fun first second => second.trans first)
    (fun ends => ends.depth) ran

/--
What is reported of a file that fails, and what it leaves behind: one layer with its
path, around a failure of its own. A file that is not read as a script changes nothing
but the log; a script that fails leaves what its completed commands did.
-/
structure FileReport
    (files : FileStore)
    (path : OsText)
    (before : Machine)
    (cause : Failure)
    (after : Machine) :
    Prop where
  layer : (Failure.inScript path.display cause).scriptPaths = [path.display]
  kind : (Failure.inScript path.display cause).kind = cause.kind
  message :
    (Failure.inScript path.display cause).message =
      "failed to run script " ++ Text.quoted path.display ++ ": " ++ cause.message
  unread :
    (∀ source script,
      files path = .ok source → Script.ofSource source ≠ .ok script) →
        after.environment = before.environment ∧ after.sink = before.sink
  stopped :
    ∀ source script,
      files path = .ok source →
        Script.ofSource source = .ok script →
          ∃ commands,
            script.functions[initName]? = some (.composite ⟨initName, commands⟩) ∧
              ReportedOf
                (ScriptFailsThrough commands (before.opened path source)
                  ((before.opened path source).merge script))
                ((before.opened path source).merge script) cause after

theorem FileEnds.report
    (rootLive : before.environment.isLive Environment.root)
    (ends : FileEnds files path before (.error cause) after) :
    FileReport files path before cause after := by
  have ofCause
      (isCause : cause.IsCause)
      (notRun :
        ∀ source script,
          files path = .ok source → Script.ofSource source ≠ .ok script)
      (sameEnvironment : after.environment = before.environment)
      (sameSink : after.sink = before.sink) :
      FileReport files path before cause after :=
    { layer := congrArg (path.display :: ·) (Failure.scriptPaths_of_isCause isCause)
      kind := rfl
      message := Failure.message_inScript path.display cause
      unread := fun _ => ⟨sameEnvironment, sameSink⟩
      stopped := fun source script found accepted =>
        absurd accepted (notRun source script found) }
  cases ends with
  | unreadable nothing =>
      refine ofCause trivial ?_ rfl rfl
      simp [nothing]
  | refused found refused =>
      refine ofCause (Script.isCause_of_ofSource refused) ?_ rfl rfl
      intro source script otherFound accepted
      rw [found, Except.ok.injEq] at otherFound
      subst otherFound
      rw [refused] at accepted
      cases accepted
  | @ran source script _ _ found accepted finishes =>
      have openedLive : (before.opened path source).environment.isLive Environment.root :=
        rootLive
      obtain ⟨commands, isInit, reported⟩ := runScript_reports openedLive accepted finishes
      have ⟨_, _, _, _, _, report⟩ := reported
      exact
        { layer := by
            rw [Failure.scriptPaths, report.layers, Failure.scriptPaths_within,
              Failure.scriptPaths_of_isCause report.isCause]
          kind := rfl
          message := Failure.message_inScript path.display cause
          unread := fun notRun => absurd accepted (notRun source script found)
          stopped := by
            intro other read otherFound otherAccepted
            rw [found, Except.ok.injEq] at otherFound
            subst otherFound
            rw [accepted, Except.ok.injEq] at otherAccepted
            subst otherAccepted
            exact ⟨commands, isInit, reported⟩ }

/--
Running files composes. Files that are run in turn run as their parts do, one after
the other on the same machine, as long as none fails. A batch fails exactly if one of
its files does behind others that have completed; the failure is then that of the
file in one layer with its path, what was done up to there stays, and neither the
files behind it nor what the store holds elsewhere make any difference.
-/
theorem runFiles_composed
    (rootLive : machine.environment.isLive Environment.root)
    (files : FileStore) :
    (∀ earlier later outcome after,
      Finishes (fun fuel => machine.runFiles fuel files (earlier ++ later)) outcome after ↔
        (∃ failure,
          outcome = .error failure ∧
            Finishes (fun fuel => machine.runFiles fuel files earlier)
              (.error failure) after) ∨
        (∃ middle,
          Finishes (fun fuel => machine.runFiles fuel files earlier) (.ok ()) middle ∧
            Finishes (fun fuel => middle.runFiles fuel files later) outcome after)) ∧
    (∀ paths failure after,
      Finishes (fun fuel => machine.runFiles fuel files paths) (.error failure) after ↔
        ∃ earlier path later before cause,
          paths = earlier ++ path :: later ∧
            failure = .inScript path.display cause ∧
            FailsBehind files machine earlier path before cause after) ∧
    ∀ earlier path before cause after,
      FailsBehind files machine earlier path before cause after →
        FileReport files path before cause after ∧
        ∀ store : FileStore,
          (∀ read ∈ earlier ++ [path], store read = files read) →
            ∀ later,
              Finishes (fun fuel => machine.runFiles fuel store (earlier ++ path :: later))
                (.error (.inScript path.display cause)) after := by
  refine ⟨fun _ _ _ _ => finishes_runFiles_append_iff,
    fun _ _ _ => finishes_runFiles_error_iff, ?_⟩
  intro earlier path before cause after fails
  have beforeLive : before.environment.isLive Environment.root := by
    obtain ⟨_, completed⟩ := fails.completed
    rwa [Environment.isLive_iff, depth_runFiles completed, ← Environment.isLive_iff]
  refine ⟨fails.fails.report beforeLive, ?_⟩
  intro store same later
  -- Without the files behind it, the batch fails in the store that it was given.
  have failsAlone :
      Finishes (fun fuel => machine.runFiles fuel files (earlier ++ [path]))
        (.error (.inScript path.display cause)) after :=
    finishes_runFiles_error_iff.mpr ⟨earlier, path, [], before, cause, rfl, rfl, fails⟩
  simp only [← runFiles_congr same] at failsAlone
  have whole : earlier ++ path :: later = (earlier ++ [path]) ++ later := by
    simp
  rw [whole]
  exact finishes_runFiles_append_iff.mpr (.inl ⟨_, rfl, failsAlone⟩)

end Files

/-- Two files, the second of which fails after it has printed, and a directory beside them. -/
def twoFiles : FileTree :=
  let first := "\x7b\"x\": 1, \"init\": [\x7b\"cmd\": \"print\", \"value\": \"#x\"\x7d]\x7d"
  let second :=
    "\x7b\"init\": [\x7b\"cmd\": \"print\", \"value\": \"#x\"\x7d, " ++
      "\x7b\"cmd\": \"print\"\x7d]\x7d"
  ((FileTree.emptyDirectory.addFile (.ofString "first.json") first.toUTF8).addFile
    (.ofString "second.json") second.toUTF8).addDirectory (.ofString "third.json")

/-- The second file ends the batch, so that a directory behind it goes unnoticed. -/
theorem twoFiles_composed :
    bare.environment.isLive Environment.root ∧
      ∃ before cause after,
        Finishes
            (fun fuel =>
              bare.runFiles fuel twoFiles.store
                [.ofString "first.json", .ofString "second.json", .ofString "third.json"])
            (.error (.inScript "second.json" cause)) after ∧
          FailsBehind twoFiles.store bare [.ofString "first.json"] (.ofString "second.json")
            before cause after ∧
          FileReport twoFiles.store (.ofString "second.json") before cause after ∧
          cause.message =
            "failed to execute function \"init\": " ++
              "failed to evaluate function \"print\": missing \"value\" argument" ∧
          after.sink.written = "1.0000\n1.0000\n".toUTF8 := by
  have fails :
      (bare.runFiles 1 twoFiles.store
          [.ofString "first.json", .ofString "second.json",
            .ofString "third.json"]).toOption.map
          (fun ended =>
            (match ended.1 with
              | .error (.inScript path cause) => some (path, cause.message)
              | _ => none,
              ended.2.sink.written)) =
        some
          (some
            ("second.json",
              "failed to execute function \"init\": " ++
                "failed to evaluate function \"print\": missing \"value\" argument"),
            "1.0000\n1.0000\n".toUTF8) := by
    decide +kernel
  obtain ⟨outcome, after, ran, observed⟩ := exists_of_observed fails
  obtain ⟨observedFailure, written⟩ := Prod.mk.inj observed
  split at observedFailure
  case h_2 => cases observedFailure
  case h_1 path cause stopped =>
    obtain rfl : outcome = .error (.inScript path cause) := stopped
    obtain ⟨rfl, isMessage⟩ := Prod.mk.inj (Option.some.inj observedFailure)
    have finishes :
        Finishes
          (fun fuel =>
            bare.runFiles fuel twoFiles.store
              [.ofString "first.json", .ofString "second.json", .ofString "third.json"])
          (.error (.inScript "second.json" cause)) after :=
      ⟨1, ran⟩
    have rootLive : bare.environment.isLive Environment.root := rfl
    obtain ⟨_, failsExactly, reports⟩ := runFiles_composed rootLive twoFiles.store
    obtain ⟨earlier, path, later, before, inner, split, isFailure, behind⟩ :=
      (failsExactly _ _ _).mp finishes
    obtain ⟨isPath, rfl⟩ := Failure.inScript.inj isFailure
    have isSecond : path = .ofString "second.json" := by
      have member := List.mem_append_right earlier (List.mem_cons_self (a := path) (l := later))
      rw [← split] at member
      simp only [List.mem_cons, List.not_mem_nil, or_false] at member
      rcases member with rfl | rfl | rfl
      case inr.inl => rfl
      all_goals
        rw [OsText.display_ofString] at isPath
        exact absurd isPath (by decide)
    subst isSecond
    have isFirst : earlier = [.ofString "first.json"] := by
      rcases earlier with _ | ⟨first, _ | ⟨second, more⟩⟩
      · exact absurd (List.cons.inj split).1 (by decide +kernel)
      · rw [(List.cons.inj split).1]
      · have rest := (List.cons.inj (List.cons.inj split).2).2
        rcases more with _ | ⟨third, others⟩
        · exact absurd (List.cons.inj rest).1 (by decide +kernel)
        · exact absurd (List.cons.inj rest).2 (by simp)
    subst isFirst
    exact ⟨rootLive, before, cause, after, finishes, behind, (reports _ _ _ _ _ behind).1,
      isMessage, written⟩

end Machine

end FunctionScript
