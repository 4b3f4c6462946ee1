import FunctionScript.CommandLine
import FunctionScript.Proofs.Batches
import FunctionScript.Proofs.BufferedOutput
import FunctionScript.Proofs.ByteOrder
import FunctionScript.Proofs.ErrorChains

namespace FunctionScript

/-!
# Runs from the command line

Arguments that are files, with options for a more detailed log anywhere between them, ask
for a run of the files. What the program reports of it is what running the files on a fresh
machine comes to, although the program prints through a buffer and that machine does not:
the output is the same, the exit code tells whether the run failed, and the error output
ends with the message of the failure.
-/

-- Powers are those of the core library, whatever else is in scope.
attribute [local instance (high)] instPowNat

namespace CommandLine

/-- An option that asks for a more detailed log, once or several times. -/
inductive IsVerboseFlag :
    OsText →
    Prop where
  | long : IsVerboseFlag (.ofString "--verbose")
  | letters
      (more : Nat) :
      IsVerboseFlag (.ofString (String.ofList ('-' :: List.replicate (more + 1) 'v')))

/-- Whether an argument is not empty and does not begin with a dash. -/
def isFile
    (argument : OsText) :
    Bool :=
  match argument.bytes.data.toList with
  | [] => false
  | first :: _ => first != 0x2D

/-- The bytes of a text that begins with a dash begin with one. -/
theorem bytes_ofString_dash
    (rest : List Char) :
    (OsText.ofString (String.ofList ('-' :: rest))).bytes.data.toList =
      0x2D :: rest.flatMap String.utf8EncodeChar := by
  have isDash : String.utf8EncodeChar '-' = [0x2D] := by decide
  have encoded := Text.bytes_eq_flatMap (String.ofList ('-' :: rest))
  rw [String.toList_ofList, List.flatMap_cons, isDash] at encoded
  exact encoded

/-- A text that begins with a dash and goes on is an option. -/
theorem isOption_ofString_dash
    (next : Char)
    (rest : List Char) :
    (OsText.ofString (String.ofList ('-' :: next :: rest))).isOption := by
  have bytesAre := bytes_ofString_dash (next :: rest)
  have goesOn : 0 < (String.utf8EncodeChar next).length := by
    rw [String.length_utf8EncodeChar]
    exact next.utf8Size_pos
  rw [OsText.isOption, ByteArray.size, ← Array.length_toList, ← Array.getElem?_toList, bytesAre]
  simp only [List.getElem?_cons_zero, List.flatMap_cons, List.length_cons, List.length_append]
  simp only [decide_true, Bool.true_and, decide_eq_true_eq]
  omega

namespace IsVerboseFlag

variable {argument : OsText}

theorem ne_dashes
    (isFlag : IsVerboseFlag argument) :
    argument ≠ .ofString "--" := by
  cases isFlag with
  | long =>
      rw [Ne, OsText.ofString_inj]
      decide
  | letters more =>
      intro same
      have sameCharacters := congrArg String.toList (OsText.ofString_inj.mp same)
      rw [String.toList_ofList, List.replicate_succ] at sameCharacters
      injection sameCharacters with _ sameRest
      injection sameRest with sameLetter
      exact absurd sameLetter (by decide)

theorem isOption
    (isFlag : IsVerboseFlag argument) :
    argument.isOption := by
  cases isFlag with
  | long => exact isOption_ofString_dash '-' "verbose".toList
  | letters more => exact isOption_ofString_dash 'v' (List.replicate more 'v')

end IsVerboseFlag

variable {argument : OsText}

/-- An option begins with a dash, and a file does not. -/
theorem isOption_eq_false_of_isFile
    (argumentIsFile : isFile argument) :
    argument.isOption = false := by
  rw [isFile] at argumentIsFile
  rw [OsText.isOption, ← Array.getElem?_toList]
  split at argumentIsFile
  case h_1 => cases argumentIsFile
  case h_2 first _ beginsWith =>
    have noDash : first ≠ 0x2D := by simpa using argumentIsFile
    simp [beginsWith, noDash]

theorem IsVerboseFlag.not_isFile
    (isFlag : IsVerboseFlag argument) :
    ¬isFile argument := by
  intro argumentIsFile
  have isNoOption := isOption_eq_false_of_isFile argumentIsFile
  rw [isFlag.isOption] at isNoOption
  cases isNoOption

/-- A file is neither empty nor the end of the options. -/
theorem ne_of_isFile
    {other : OsText}
    (argumentIsFile : isFile argument)
    (notFile : isFile other = false) :
    argument ≠ other := by
  rintro rfl
  rw [argumentIsFile] at notFile
  cases notFile

namespace Progress

variable {progress : Progress}

/-- Progress over options: the same files, and none of them is refused. -/
structure Continues
    (before after : Progress) :
    Prop where
  sameFiles : after.files ++ after.pending = before.files ++ before.pending
  noEmpty : OsText.empty ∉ after.pending

theorem addFlag_verbose
    (noEmpty : OsText.empty ∉ progress.pending) :
    ∃ after, progress.addFlag .verbose = .ok (.inr after) ∧ progress.Continues after := by
  have settles : ¬progress.pending.contains OsText.empty := by simpa using noEmpty
  simp only [addFlag, settle, settles]
  exact ⟨_, rfl, by simp, by simp⟩

theorem addLetters_verbose
    (noEmpty : OsText.empty ∉ progress.pending)
    (count : Nat) :
    ∃ after,
      progress.addLetters (List.replicate count 'v') = .ok (.inr after) ∧
        progress.Continues after := by
  induction count generalizing progress with
  | zero => exact ⟨progress, rfl, rfl, noEmpty⟩
  | succ count inductionHypothesis =>
      obtain ⟨next, added, first⟩ := addFlag_verbose noEmpty
      obtain ⟨after, rest, others⟩ := inductionHypothesis first.noEmpty
      refine ⟨after, ?_, others.sameFiles.trans first.sameFiles, others.noEmpty⟩
      have isVerbose : Flag.all.find? (fun flag => flag.letter == 'v') = some .verbose := by
        decide
      rw [List.replicate_succ, addLetters, isVerbose]
      simp only [added, rest]

theorem addArgument_verbose
    {argument : OsText}
    (isFlag : IsVerboseFlag argument)
    (noEmpty : OsText.empty ∉ progress.pending) :
    ∃ after,
      progress.addArgument argument = .ok (.inr after) ∧ progress.Continues after := by
  cases isFlag with
  | long =>
      obtain ⟨after, added, continues⟩ := addFlag_verbose noEmpty
      refine ⟨after, ?_, continues⟩
      rw [addArgument, if_pos IsVerboseFlag.long.isOption, OsText.display_ofString]
      exact added
  | letters more =>
      obtain ⟨after, added, continues⟩ := addLetters_verbose noEmpty (more + 1)
      refine ⟨after, ?_, continues⟩
      rw [addArgument, if_pos (IsVerboseFlag.letters more).isOption, OsText.display_ofString,
        String.toList_ofList]
      exact added

theorem addArgument_isFile
    {argument : OsText}
    (argumentIsFile : isFile argument) :
    progress.addArgument argument = .ok (.inr (progress.addFile argument)) := by
  rw [addArgument, isOption_eq_false_of_isFile argumentIsFile]
  rfl

/-- Options for a more detailed log and files ask for a run of the files, in their order. -/
theorem addArguments_flags_files
    {arguments : List OsText}
    (known : ∀ argument ∈ arguments, IsVerboseFlag argument ∨ isFile argument)
    (noEmpty : OsText.empty ∉ progress.pending) :
    ∃ verbosity,
      progress.addArguments arguments =
        .ok (.run verbosity (progress.files ++ progress.pending ++ arguments.filter isFile)) := by
  induction arguments generalizing progress with
  | nil =>
      have settles : ¬progress.pending.contains OsText.empty := by simpa using noEmpty
      simp only [addArguments, finish, settle, settles]
      exact ⟨_, by simp; rfl⟩
  | cons argument rest inductionHypothesis =>
      have restKnown (other : OsText) (member : other ∈ rest) := known other (by simp [member])
      rcases known argument (by simp) with isFlag | isFile
      · obtain ⟨after, added, continues⟩ := addArgument_verbose isFlag noEmpty
        obtain ⟨verbosity, asked⟩ := inductionHypothesis restKnown continues.noEmpty
        refine ⟨verbosity, ?_⟩
        rw [addArguments, if_neg isFlag.ne_dashes, added]
        simp only [asked, continues.sameFiles]
        rw [List.filter_cons_of_neg isFlag.not_isFile]
      · have stillNoEmpty : OsText.empty ∉ (progress.addFile argument).pending := by
          have notEmpty : argument ≠ .empty := ne_of_isFile isFile rfl
          simp [addFile, noEmpty, notEmpty.symm]
        obtain ⟨verbosity, asked⟩ := inductionHypothesis restKnown stillNoEmpty
        have notEnd : argument ≠ .ofString "--" := ne_of_isFile isFile (by decide +kernel)
        refine ⟨verbosity, ?_⟩
        rw [addArguments, if_neg notEnd, addArgument_isFile isFile]
        simp only [asked]
        rw [List.filter_cons_of_pos isFile]
        simp [addFile]

end Progress

section Runs

variable
  {arguments : List OsText}
  {machine : Machine}
  {fuel : Nat}
  {files : FileStore}

/-- The line that reports a failure has its message. -/
theorem failureLine_eq
    (failure : Failure) :
    failureLine failure = "error: aborting execution: " ++ failure.message ++ "\n" := by
  rw [failureLine, ErrorChain.oneLine_causedBy, ← Failure.message]
  simp only [← String.append_assoc]
  rfl

/-- How the program reports that a run ended. -/
structure Reports
    (report : Report)
    (outcome : Outcome)
    (machine : Machine) :
    Prop where
  output : report.output = machine.sink.written
  succeeds : report.exitCode = 0 ↔ outcome = .ok ()
  fails :
    ∀ failure,
      outcome = .error failure →
        report.exitCode = 1 ∧
          ∃ before,
            report.standardError =
              before ++ ("error: aborting execution: " ++ failure.message ++ "\n")

/-- The report of a run through a buffer is one of a run whose output is what has arrived. -/
theorem reports_ofRun
    (verbosity : Nat)
    (outcome : Outcome)
    {buffered : Machine BufferedSink}
    (arrived : buffered.sink.device.written = machine.sink.written) :
    Reports (.ofRun verbosity outcome buffered) outcome machine where
  output := arrived
  succeeds := by cases outcome <;> simp [Report.ofRun]
  fails := by
    rintro failure rfl
    rw [← failureLine_eq]
    exact ⟨rfl, _, rfl⟩

theorem request_flags_files
    (known : ∀ argument ∈ arguments, IsVerboseFlag argument ∨ isFile argument) :
    ∃ verbosity, request arguments = .ok (.run verbosity (arguments.filter isFile)) :=
  Progress.addArguments_flags_files known (by simp)

theorem perform_run
    (verbosity : Nat)
    {paths : List OsText}
    (someFile : paths ≠ []) :
    perform fuel files (.run verbosity paths) =
      (Machine.runBuffered fuel files paths .unlimited).map fun (outcome, machine) =>
        .ofRun verbosity outcome machine := by
  cases paths with
  | nil => exact absurd rfl someFile
  | cons first rest => rfl

/--
The program run on files, with any options for a more detailed log, reports what running
the files on a fresh machine comes to, and comes to no result only if that does not.
-/
theorem execute_reports_runFiles
    (fuel : Nat)
    (files : FileStore)
    (known : ∀ argument ∈ arguments, IsVerboseFlag argument ∨ isFile argument)
    (someFile : arguments.filter isFile ≠ []) :
    (∀ stop,
      execute fuel files arguments = .error stop ↔
        (Machine.initial Sink.unlimited).runFiles fuel files (arguments.filter isFile) =
          .error stop) ∧
      ∀ outcome machine,
        (Machine.initial Sink.unlimited).runFiles fuel files (arguments.filter isFile) =
            .ok (outcome, machine) →
          ∃ report,
            execute fuel files arguments = .ok report ∧ Reports report outcome machine := by
  obtain ⟨verbosity, asked⟩ := request_flags_files known
  simp only [execute, asked, perform_run verbosity someFile]
  obtain ⟨stops, ends⟩ :=
    Machine.runBuffered_eq fuel files (arguments.filter isFile) .unlimited rfl
  cases ran : (Machine.initial Sink.unlimited).runFiles fuel files (arguments.filter isFile) with
  | error stop =>
      rw [stops stop ran]
      refine ⟨fun other => by simp [Except.map], fun outcome machine ended => ?_⟩
      cases ended
  | ok ended =>
      obtain ⟨outcome, machine⟩ := ended
      obtain ⟨buffered, ranBuffered, _, _, arrived⟩ := ends outcome machine ran
      rw [ranBuffered]
      refine ⟨fun stop => by simp [Except.map], ?_⟩
      rintro _ _ ⟨⟩
      exact ⟨_, rfl, reports_ofRun verbosity outcome arrived⟩

/-- Two files, and options for a more detailed log around them. -/
def twoFilesVerbosely : List OsText :=
  [.ofString "-vv", .ofString "first.json", .ofString "--verbose", .ofString "second.json"]

/-- Two files with options around them: what the first printed is kept, and the second fails. -/
theorem twoFiles_reported :
    (∀ argument ∈ twoFilesVerbosely, IsVerboseFlag argument ∨ isFile argument) ∧
      twoFilesVerbosely.filter isFile ≠ [] ∧
        ∃ report before,
          execute 1 Machine.twoFiles.store twoFilesVerbosely = .ok report ∧
            report.exitCode = 1 ∧
            report.output = "1.0000\n1.0000\n".toUTF8 ∧
            report.standardError =
              before ++ ("error: aborting execution: " ++
                ("failed to run script \"second.json\": " ++
                  "failed to execute function \"init\": " ++
                  "failed to evaluate function \"print\": missing \"value\" argument") ++
                "\n") := by
  have known :
      ∀ argument ∈ twoFilesVerbosely,
        IsVerboseFlag argument ∨ isFile argument := by
    intro argument member
    simp only [twoFilesVerbosely, List.mem_cons, List.not_mem_nil, or_false] at member
    rcases member with rfl | rfl | rfl | rfl
    · exact .inl (.letters 1)
    · exact .inr (by decide +kernel)
    · exact .inl .long
    · exact .inr (by decide +kernel)
  have someFile :
      twoFilesVerbosely.filter isFile ≠ [] := by
    decide +kernel
  have ends :
      ((Machine.initial Sink.unlimited).runFiles 1 Machine.twoFiles.store
          (twoFilesVerbosely.filter isFile)).toOption.map
          (fun ended =>
            (match ended.1 with
              | .error failure => some failure.message
              | .ok () => none,
              ended.2.sink.written)) =
        some
          (some
            ("failed to run script \"second.json\": " ++
              "failed to execute function \"init\": " ++
              "failed to evaluate function \"print\": missing \"value\" argument"),
            "1.0000\n1.0000\n".toUTF8) := by
    decide +kernel
  obtain ⟨outcome, after, ran, observed⟩ := Machine.exists_of_observed ends
  obtain ⟨observedFailure, written⟩ := Prod.mk.inj observed
  obtain ⟨report, executed, reports⟩ :=
    (execute_reports_runFiles 1 Machine.twoFiles.store known someFile).2 outcome after ran
  cases outcome with
  | ok done => cases observedFailure
  | error failure =>
      obtain ⟨exitCode, before, errors⟩ := reports.fails failure rfl
      rw [Option.some.inj observedFailure] at errors
      exact ⟨known, someFile, report, before, executed, exitCode, reports.output.trans written,
        errors⟩

end Runs

end CommandLine

end FunctionScript
