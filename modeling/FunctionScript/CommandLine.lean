import FunctionScript.Batch
import FunctionScript.EventLine
import FunctionScript.Text.ControlSequence
import FunctionScript.Text.Similarity

namespace FunctionScript

/-!
# The command line

The program takes script files, and options before, between and after them. An
argument that starts with a dash is an option, until two dashes end the options.
Options take effect in the order in which they stand: help and the version answer
at once, and anything that cannot be understood ends the reading.

File arguments are checked when the next option is met or the arguments end. An
empty one is refused then.

A message shows what was written without the control sequences in it.
-/

namespace CommandLine

/-- The options; none of them takes a value. -/
inductive Flag where
  | verbose
  | help
  | version
  deriving DecidableEq, Repr

def Flag.all : List Flag :=
  [.verbose, .help, .version]

def Flag.name :
    Flag →
    String
  | verbose => "verbose"
  | help => "help"
  | version => "version"

/-- The letter of an option after one dash. -/
def Flag.letter :
    Flag →
    Char
  | verbose => 'v'
  | help => 'h'
  | version => 'V'

/-- How an option is shown; dots tell that it may be repeated. -/
def Flag.shown
    (flag : Flag) :
    String :=
  match flag with
  | verbose => "--" ++ flag.name ++ "..."
  | _ => "--" ++ flag.name

/-- Whether an option tells how files are run, and so stands with them. -/
def Flag.tellsHow :
    Flag →
    Bool
  | verbose => true
  | help | version => false

/-- What has been given when a usage line is shown: options in order, and whether files were. -/
structure Given where
  flags : List Flag
  files : Bool
  deriving DecidableEq, Repr

/-- The given arguments with one more option, which is listed once. -/
def Given.withFlag
    (given : Given)
    (flag : Flag) :
    Given :=
  if given.flags.contains flag then
    given
  else
    { given with flags := given.flags ++ [flag] }

/-- Whether anything has been given that tells which files to run, or how. -/
def Given.startsRun
    (given : Given) :
    Bool :=
  given.files || given.flags.any Flag.tellsHow

def programName : String :=
  "fslengine"

def programVersion : String :=
  "0.1.0"

/-- The usage line, which shows what has been given, or else that options may be. -/
def Given.usage
    (given : Given) :
    String :=
  let options :=
    if given.flags = [] ∧ !given.files then
      ["[OPTIONS]"]
    else
      given.flags.map Flag.shown
  let files := if given.files then "<FILES>..." else "[FILES]..."
  "Usage: " ++ " ".intercalate ([programName] ++ options ++ [files])

/-- What tells which files to run, or how, as alternatives. -/
def runAlternatives : String :=
  "<" ++ "|".intercalate ((Flag.all.filter Flag.tellsHow).map Flag.shown ++ ["FILES"]) ++ ">"

/--
The usage line for one more option: once a run has been started, its options and
files are shown as alternatives, after the option if it is not one of them.
-/
def Given.usageWith
    (given : Given)
    (flag : Flag) :
    String :=
  if given.startsRun then
    let options := (given.withFlag flag).flags.filter fun option => !option.tellsHow
    "Usage: " ++ " ".intercalate ([programName] ++ options.map Flag.shown ++ [runAlternatives])
  else
    (given.withFlag flag).usage

/-- What is wrong with the arguments. -/
inductive UsageError where
  /-- An option is not known; one that is similar may be meant. -/
  | unknownOption (written : String) (similar : Option Flag) (given : Given)
  /-- An option was given a value, after what had been given. -/
  | unexpectedValue (value : String) (flag : Flag) (given : Given)
  /-- A file argument is empty. -/
  | emptyFile
  deriving DecidableEq, Repr

def moreInformation : String :=
  "For more information, try '--help'.\n"

/-- The tip for an unknown option, as it is shown. -/
def unknownOptionTip
    (shown : String) :
    Option Flag →
    String
  | some flag => "  tip: a similar argument exists: '--" ++ flag.name ++ "'\n\n"
  | none => "  tip: to pass '" ++ shown ++ "' as a value, use '-- " ++ shown ++ "'\n\n"

def UsageError.message :
    UsageError →
    String
  | unknownOption written similar given =>
      let shown := Text.shownText written
      "error: unexpected argument '" ++ shown ++ "' found\n\n" ++
        unknownOptionTip shown similar ++
        given.usage ++ "\n\n" ++ moreInformation
  | unexpectedValue value flag given =>
      "error: unexpected value '" ++ Text.shownText value ++ "' for '" ++ flag.shown ++
        "' found; no more were expected\n\n" ++
        given.usageWith flag ++ "\n\n" ++ moreInformation
  | emptyFile =>
      "error: a value is required for '[FILES]...' but none was supplied\n\n" ++
        moreInformation

/-- What the arguments ask for. -/
inductive Request where
  | help
  | version
  /-- Run the files, logging the more the greater the verbosity is. -/
  | run (verbosity : Nat) (files : List OsText)
  deriving DecidableEq

/-- What has been read of the arguments. -/
structure Progress where
  verbosity : Nat := 0
  /-- What has taken effect. -/
  given : Given := ⟨[], false⟩
  /-- The files that have been checked. -/
  files : List OsText := []
  /-- The files after the last option. -/
  pending : List OsText := []
  deriving DecidableEq

namespace Progress

def addFile
    (progress : Progress)
    (file : OsText) :
    Progress :=
  { progress with pending := progress.pending ++ [file] }

/-- Whether files have been given, checked or not. -/
def givenWithPending
    (progress : Progress) :
    Given :=
  { progress.given with files := progress.given.files || !progress.pending.isEmpty }

/-- Check the pending files. -/
def settle
    (progress : Progress) :
    Except UsageError Progress :=
  if progress.pending.contains .empty then
    .error .emptyFile
  else
    .ok { progress with
      given := progress.givenWithPending
      files := progress.files ++ progress.pending
      pending := [] }

def addFlag
    (progress : Progress)
    (flag : Flag) :
    Except UsageError (Request ⊕ Progress) :=
  progress.settle.map fun settled =>
    match flag with
    | .help => .inl .help
    | .version => .inl .version
    | .verbose =>
        .inr { settled with
          verbosity := settled.verbosity + 1
          given := settled.given.withFlag .verbose }

/-- Let the letters after one dash take effect. -/
def addLetters
    (progress : Progress) :
    List Char →
    Except UsageError (Request ⊕ Progress)
  | [] => .ok (.inr progress)
  | letter :: rest =>
      match Flag.all.find? fun flag => flag.letter == letter with
      | none =>
          .error (.unknownOption (String.ofList ['-', letter]) none ⟨[], false⟩)
      | some flag =>
          match progress.addFlag flag with
          | .error error => .error error
          | .ok (.inl request) => .ok (.inl request)
          | .ok (.inr after) => after.addLetters rest

/-- The option that an unknown one may be meant to be: the most similar one, of equals the last. -/
def similarFlag?
    (name : List Char) :
    Option Flag :=
  let similar :=
    Flag.all.filter fun flag => Text.isSimilar name flag.name.toList
  similar.foldl
    (fun best flag =>
      match best with
      | none => some flag
      | some other =>
          let similarity := Text.similarity name flag.name.toList
          if similarity.isLess (Text.similarity name other.name.toList) then
            some other
          else
            some flag)
    none

/-- Let what stands after two dashes take effect: a name, and a value if there is an equals sign. -/
def addLong
    (progress : Progress)
    (text : List Char) :
    Except UsageError (Request ⊕ Progress) :=
  let name := text.takeWhile (· != '=')
  let value := text.dropWhile (· != '=')
  match Flag.all.find? fun flag => flag.name.toList == name, value with
  | some flag, [] => progress.addFlag flag
  | some flag, _ :: value =>
      .error (.unexpectedValue (String.ofList value) flag progress.given)
  | none, _ =>
      let similar := similarFlag? name
      let given := progress.givenWithPending
      .error
        (.unknownOption (String.ofList ('-' :: '-' :: name)) similar
          (similar.elim given given.withFlag))

/-- Let an argument other than two dashes alone take effect. -/
def addArgument
    (progress : Progress)
    (argument : OsText) :
    Except UsageError (Request ⊕ Progress) :=
  if argument.isOption then
    match argument.display.toList with
    | '-' :: '-' :: text => progress.addLong text
    | letters => progress.addLetters (letters.drop 1)
  else
    .ok (.inr (progress.addFile argument))

/-- The request to run the files, once they are checked. -/
def finish
    (progress : Progress) :
    Except UsageError Request :=
  progress.settle.map fun settled => .run settled.verbosity settled.files

/-- Let the arguments take effect in order; after two dashes alone all are files. -/
def addArguments
    (progress : Progress) :
    List OsText →
    Except UsageError Request
  | [] => progress.finish
  | argument :: rest =>
      if argument = .ofString "--" then
        (rest.foldl addFile progress).finish
      else
        match progress.addArgument argument with
        | .error error => .error error
        | .ok (.inl request) => .ok request
        | .ok (.inr after) => after.addArguments rest

end Progress

/-- What the arguments ask for. -/
def request
    (arguments : List OsText) :
    Except UsageError Request :=
  Progress.addArguments {} arguments

def helpText : String :=
  "FSL - an evaluation engine for JSON-encoded function scripts\n\n" ++
    "Usage: fslengine [OPTIONS] [FILES]...\n\n" ++
    "Arguments:\n" ++
    "  [FILES]...  Script files to run\n\n" ++
    "Options:\n" ++
    "  -v, --verbose...  Log evaluation to stderr (-v for debug, -vv for trace)\n" ++
    "  -h, --help        Print help\n" ++
    "  -V, --version     Print version\n"

def versionText : String :=
  programName ++ " " ++ programVersion ++ "\n"

/-- What the program leaves behind: its exit code, what it wrote, and the log. -/
structure Report where
  exitCode : Nat
  output : ByteArray
  errors : String
  log : List Event

/-- What the program writes besides its output: the log, and then its error message. -/
def Report.standardError
    (report : Report) :
    String :=
  String.join (report.log.map fun event => event.line ++ "\n") ++ report.errors

def Report.ofText
    (text : String) :
    Report where
  exitCode := 0
  output := text.toUTF8
  errors := ""
  log := []

def Report.ofUsageError
    (error : UsageError) :
    Report where
  exitCode := 2
  output := .empty
  errors := error.message
  log := []

/-- The line in which a failure is reported: what was given up, and then the chain behind it. -/
def failureLine
    (failure : Failure) :
    String :=
  "error: " ++ (ErrorChain.causedBy "aborting execution" failure.errorChain).oneLine ++ "\n"

/-- Whether the log shows events of a level. -/
def shows
    (verbosity : Nat) :
    Event.Level →
    Bool
  | .warn => true
  | .debug => 1 ≤ verbosity
  | .trace => 2 ≤ verbosity

/-- The report of a finished run: what has arrived at the standard output, and any failure. -/
def Report.ofRun
    (verbosity : Nat)
    (outcome : Outcome)
    (machine : Machine BufferedSink) :
    Report where
  exitCode :=
    match outcome with
    | .ok () => 0
    | .error _ => 1
  output := machine.sink.device.written
  errors :=
    match outcome with
    | .ok () => ""
    | .error failure => failureLine failure
  log := machine.log.toList.filter fun event => shows verbosity event.level

/--
Do what is asked for, with a standard output that takes everything. Without files the help
text is shown, with an empty line after it.
-/
def perform
    (fuel : Nat)
    (files : FileStore) :
    Request →
    Except Stop Report
  | .help => .ok (.ofText helpText)
  | .version => .ok (.ofText versionText)
  | .run _ [] => .ok (.ofText (helpText ++ "\n"))
  | .run verbosity paths =>
      (Machine.runBuffered fuel files paths .unlimited).map fun (outcome, machine) =>
        .ofRun verbosity outcome machine

/-- Run the program with the given arguments. -/
def execute
    (fuel : Nat)
    (files : FileStore)
    (arguments : List OsText) :
    Except Stop Report :=
  match request arguments with
  | .ok request => perform fuel files request
  | .error error => .ok (.ofUsageError error)

end CommandLine

end FunctionScript
