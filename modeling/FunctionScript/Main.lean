import FunctionScript.CommandLine

/-!
# The program

Reads the files that the arguments name, runs the command line on them, and
writes what it reports.
-/

namespace FunctionScript.Main

/-- How many composite functions may be active at once. -/
def callDepth : Nat :=
  1000000

/-- The wording of a failure to read a file. -/
def readFailure :
    IO.Error →
    String
  | .noFileOrDirectory _ code details => describe details code
  | .permissionDenied _ code details => describe details code
  | .inappropriateType _ code details => describe details code
  | .resourceExhausted _ code details => describe details code
  | .invalidArgument _ code details => describe details code
  | other => toString other
where
  /-- The details of an error with its code. -/
  describe (details : String) (code : UInt32) : String :=
    details ++ " (os error " ++ toString code ++ ")"

/-- Read the files of some paths, each into its bytes or the reason for which there are none. -/
def readAll
    (paths : List OsText) :
    IO (List (OsText × Except String ByteArray)) :=
  paths.mapM fun (path : OsText) => do
    match ← (IO.FS.readBinFile path.display).toBaseIO with
    | .ok bytes => return (path, .ok bytes)
    | .error error => return (path, .error (readFailure error))

def pathsOf
    (arguments : List OsText) :
    List OsText :=
  match CommandLine.request arguments with
  | .ok (.run _ paths) => paths
  | _ => []

/-- Write what the program reports, and give its exit code. -/
def writeReport
    (report : CommandLine.Report) :
    IO UInt32 := do
  let output ← IO.getStdout
  let errors ← IO.getStderr
  output.write report.output
  output.flush
  errors.putStr report.standardError
  return report.exitCode.toUInt32

/-- Read the files, run the program on them, and write its report. -/
def run
    (arguments : List OsText) :
    IO UInt32 := do
  let files ← readAll (pathsOf arguments)
  let store : FileStore := fun path =>
    (files.lookup path).getD (.error "No such file or directory (os error 2)")
  match CommandLine.execute callDepth store arguments with
  | .ok report => writeReport report
  | .error _ =>
      let errors ← IO.getStderr
      errors.putStrLn "error: functions call each other too deeply"
      return 134

end FunctionScript.Main

def main
    (arguments : List String) :
    IO UInt32 :=
  FunctionScript.Main.run (arguments.map FunctionScript.OsText.ofString)
