import FunctionScript.Failure

namespace FunctionScript

/-!
# Sinks

Output is written to a sink, which takes any number of bytes or only a limited one; a
write that does not fit is cut where the sink is full, and fails. A sink may stand behind
a buffer. The buffer holds bytes back as long as there is room for them, so that they
reach the sink later, at the latest when the buffer is flushed.
-/

/-- How an operation ended. -/
abbrev Outcome : Type :=
  Except Failure Unit

/-- How two operations ended, if the second one was carried out in any case. -/
def Outcome.both
    (first second : Outcome) :
    Outcome :=
  match first with
  | .ok () => second
  | .error failure => .error failure

/-- What output can be written to. -/
class Writer (Output : Type) where
  /-- Write all bytes, or fail. -/
  write : Output → ByteArray → Outcome × Output
  /-- Pass on what is held back. -/
  flush : Output → Outcome × Output

/-- Write a line in two pieces: the text, and then the byte that ends the line. -/
def Writer.writeLine
    {Output : Type}
    [Writer Output]
    (output : Output)
    (line : ByteArray) :
    Outcome × Output :=
  let length := line.size - 1
  match write output (line.extract 0 length) with
  | (.ok (), after) => write after (line.extract length line.size)
  | (.error failure, after) => (.error failure, after)

/--
The bytes that have arrived, how many there may be at most, and the reason for which a
write fails that does not fit.
-/
structure Sink where
  capacity : Option Nat
  written : ByteArray
  fullReason : String := "sink full"

namespace Sink

def unlimited : Sink where
  capacity := none
  written := .empty

def limited
    (capacity : Nat) :
    Sink where
  capacity := some capacity
  written := .empty

/-- How many of the bytes still fit. -/
def accepted
    (sink : Sink)
    (bytes : ByteArray) :
    Nat :=
  match sink.capacity with
  | none => bytes.size
  | some capacity => min bytes.size (capacity - sink.written.size)

/-- Write bytes as far as they fit; the write fails unless all do. -/
def write
    (sink : Sink)
    (bytes : ByteArray) :
    Outcome × Sink :=
  let count := sink.accepted bytes
  let written := { sink with written := sink.written ++ bytes.extract 0 count }
  if count = bytes.size then
    (.ok (), written)
  else
    (.error (.inputOutput sink.fullReason), written)

/-- Whether there is no room left. -/
def isFull
    (sink : Sink) :
    Bool :=
  match sink.capacity with
  | none => false
  | some capacity => capacity ≤ sink.written.size

/-- Nothing is held back, so there is nothing to pass on. -/
def flush
    (sink : Sink) :
    Outcome × Sink :=
  (.ok (), sink)

instance : Writer Sink where
  write := write
  flush := flush

end Sink

/-- A sink behind a buffer, with the bytes that the buffer holds and how many it has room for. -/
structure BufferedSink where
  device : Sink
  room : Nat
  held : ByteArray

namespace BufferedSink

/-- How many bytes a buffer has room for unless that is told. -/
def usualRoom : Nat :=
  8192

def onto
    (device : Sink) :
    BufferedSink where
  device := device
  room := usualRoom
  held := .empty

/-- Write what is held to the sink; what does not fit there stays. -/
def drain
    (output : BufferedSink) :
    Outcome × BufferedSink :=
  let (outcome, device) := output.device.write output.held
  let accepted := output.device.accepted output.held
  (outcome,
    { output with
      device := device
      held := output.held.extract accepted output.held.size })

/-- Take bytes, or pass them on if even an empty buffer has no room for them. -/
def take
    (output : BufferedSink)
    (bytes : ByteArray) :
    Outcome × BufferedSink :=
  if output.room ≤ bytes.size then
    let (outcome, device) := output.device.write bytes
    (outcome, { output with device := device })
  else
    (.ok (), { output with held := output.held ++ bytes })

/-- Write bytes to the buffer, which is drained first if they do not fit behind what it holds. -/
def write
    (output : BufferedSink)
    (bytes : ByteArray) :
    Outcome × BufferedSink :=
  if output.room - output.held.size < bytes.size then
    match output.drain with
    | (.ok (), drained) => drained.take bytes
    | (.error failure, drained) => (.error failure, drained)
  else
    output.take bytes

def flush
    (output : BufferedSink) :
    Outcome × BufferedSink :=
  match output.drain with
  | (.ok (), drained) =>
      let (outcome, device) := drained.device.flush
      (outcome, { drained with device := device })
  | (.error failure, drained) => (.error failure, drained)

instance : Writer BufferedSink where
  write := write
  flush := flush

end BufferedSink

end FunctionScript
