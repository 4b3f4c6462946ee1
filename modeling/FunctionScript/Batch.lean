import FunctionScript.OsText
import FunctionScript.Script

namespace FunctionScript

/-!
# Batches of script files

Script files run from left to right on one machine, so that a later one sees what
earlier ones left behind. The first failure ends the batch, put into a layer with
the path of its file.

What a path holds is asked of a file store, which answers with bytes or with the
reason for which there are none.

A program runs a batch on a fresh machine whose output goes to the standard output
through a buffer. The buffer is flushed in any case, so that what was printed before
a failure arrives.
-/

/-- The bytes at each path, or why they cannot be read. -/
abbrev FileStore : Type :=
  OsText → Except String ByteArray

namespace Machine

variable {Output : Type}

def runFile
    [Writer Output]
    (fuel : Nat)
    (files : FileStore)
    (path : OsText)
    (machine : Machine Output) :
    Run Output :=
  let logged := machine.record (.running path.display)
  let run :=
    match files path with
    | .ok source => logged.runSource fuel source
    | .error reason => .ok (.error (.inputOutput reason), logged)
  run.annotate (.inScript path.display)

/-- Run script files in order, up to the first that fails. -/
def runFiles
    [Writer Output]
    (fuel : Nat)
    (files : FileStore)
    (paths : List OsText)
    (machine : Machine Output) :
    Run Output :=
  inOrder (runFile fuel files) paths machine

/-- Run script files on a fresh machine that prints to a sink through a buffer. -/
def runBuffered
    (fuel : Nat)
    (files : FileStore)
    (paths : List OsText)
    (standardOutput : Sink) :
    Run BufferedSink :=
  ((initial (.onto standardOutput)).runFiles fuel files paths).map
    fun (outcome, machine) =>
      let (flushed, after) := machine.flush
      (outcome.both flushed, after)

end Machine

end FunctionScript
