import FunctionScript.Effect

namespace FunctionScript

/-!
# Writing to a sink

A sink either takes bytes as a whole, or is filled by a part of them, and then the write
fails. Bytes in several pieces are taken or cut as they would be in one, so a print may
be thought of as one write.
-/

namespace Sink

/-- The sink with a limit to how much it takes in all. -/
def capped
    (sink : Sink)
    (capacity : Nat) :
    Sink :=
  { sink with capacity := some capacity }

/-- The sink with bytes behind what was written. -/
def taking
    (sink : Sink)
    (bytes : ByteArray) :
    Sink :=
  { sink with written := sink.written ++ bytes }

/-- All of the bytes fit. -/
def Takes
    (sink : Sink)
    (bytes : ByteArray) :
    Prop :=
  ∀ capacity, sink.capacity = some capacity → bytes.size ≤ capacity - sink.written.size

/-- A part of the bytes fills the sink, and there are more. -/
def Cuts
    (sink : Sink)
    (bytes part : ByteArray) :
    Prop :=
  ∃ capacity rest,
    sink.capacity = some capacity ∧
      part.size = capacity - sink.written.size ∧
      bytes = part ++ rest ∧
      rest ≠ .empty

variable
  {sink : Sink}
  {bytes part : ByteArray}
  {capacity : Nat}

theorem extract_of_size_le
    (enough : bytes.size ≤ capacity) :
    bytes.extract 0 capacity = bytes := by
  rw [← Nat.max_eq_left enough, ByteArray.extract_zero_max_size]

/-- A write that fits succeeds. -/
theorem Takes.write
    (takes : sink.Takes bytes) :
    sink.write bytes = (.ok (), sink.taking bytes) := by
  have whole : sink.accepted bytes = bytes.size := by
    rw [accepted]
    cases limit : sink.capacity with
    | none => rfl
    | some capacity => exact Nat.min_eq_left (takes capacity limit)
  simp [Sink.write, whole, taking]

/-- A write that does not fit fails, and leaves the part that does. -/
theorem Cuts.write
    (cuts : sink.Cuts bytes part) :
    sink.write bytes = (.error (.inputOutput sink.fullReason), sink.taking part) := by
  obtain ⟨capacity, rest, limit, fills, rfl, more⟩ := cuts
  have count : sink.accepted (part ++ rest) = part.size := by
    simp [accepted, limit, fills]
  simp [Sink.write, count, more, taking, ByteArray.extract_append_eq_left]

theorem cuts_of_lt
    (limit : sink.capacity = some capacity)
    (exceeds : capacity - sink.written.size < bytes.size) :
    sink.Cuts bytes (bytes.extract 0 (capacity - sink.written.size)) := by
  have parts :=
    bytes.extract_eq_extract_append_extract (capacity - sink.written.size)
      (Nat.zero_le _) (Nat.le_of_lt exceeds)
  rw [ByteArray.extract_zero_size] at parts
  refine ⟨capacity, _, limit, ?_, parts, ?_⟩
  · simp [Nat.min_eq_left (Nat.le_of_lt exceeds)]
  · simpa [ByteArray.extract_eq_empty_iff] using exceeds

theorem takes_or_cuts
    (sink : Sink)
    (bytes : ByteArray) :
    sink.Takes bytes ∨ ∃ part, sink.Cuts bytes part := by
  by_cases takes : sink.Takes bytes
  · exact .inl takes
  · simp only [Takes, Classical.not_forall, Nat.not_le] at takes
    obtain ⟨capacity, limit, exceeds⟩ := takes
    exact .inr ⟨_, cuts_of_lt limit exceeds⟩

/-- Bytes that fit behind others fit together with them. -/
theorem Takes.append
    {others : ByteArray}
    (takes : sink.Takes bytes)
    (takesOthers : (sink.taking bytes).Takes others) :
    sink.Takes (bytes ++ others) := by
  intro capacity limit
  have room := takes capacity limit
  have roomBehind := takesOthers capacity limit
  simp only [taking, ByteArray.size_append] at roomBehind ⊢
  omega

/-- Bytes that are cut behind others are cut together with them. -/
theorem Takes.append_cuts
    {others : ByteArray}
    (takes : sink.Takes bytes)
    (cuts : (sink.taking bytes).Cuts others part) :
    sink.Cuts (bytes ++ others) (bytes ++ part) := by
  obtain ⟨capacity, rest, limit, fills, rfl, more⟩ := cuts
  have room := takes capacity limit
  refine ⟨capacity, rest, limit, ?_, ByteArray.append_assoc.symm, more⟩
  simp only [taking, ByteArray.size_append] at fills ⊢
  omega

/-- Bytes that are cut are cut at the same place with others behind them. -/
theorem Cuts.append
    (cuts : sink.Cuts bytes part)
    (others : ByteArray) :
    sink.Cuts (bytes ++ others) part := by
  obtain ⟨capacity, rest, limit, fills, rfl, more⟩ := cuts
  refine ⟨capacity, rest ++ others, limit, fills, ByteArray.append_assoc, ?_⟩
  intro nothing
  exact more (ByteArray.append_eq_empty_iff.mp nothing).1

theorem writer_write
    (sink : Sink)
    (bytes : ByteArray) :
    Writer.write sink bytes = sink.write bytes :=
  rfl

/-- A line that is written in two pieces is written as if it were one. -/
theorem writeLine_eq
    (sink : Sink)
    (line : ByteArray) :
    Writer.writeLine sink line = sink.write line := by
  have pieces :
      line = line.extract 0 (line.size - 1) ++ line.extract (line.size - 1) line.size := by
    have split :=
      line.extract_eq_extract_append_extract (line.size - 1) (Nat.zero_le _) (Nat.sub_le _ 1)
    rwa [ByteArray.extract_zero_size] at split
  simp only [Writer.writeLine, writer_write]
  generalize line.extract 0 (line.size - 1) = text at *
  generalize line.extract (line.size - 1) line.size = lineEnd at *
  subst pieces
  rcases sink.takes_or_cuts text with takes | ⟨part, cuts⟩
  · rcases (sink.taking text).takes_or_cuts lineEnd with takesEnd | ⟨part, cuts⟩
    · simp only [takes.write, takesEnd.write, (takes.append takesEnd).write]
      simp only [taking, ByteArray.append_assoc]
    · simp only [takes.write, cuts.write, (takes.append_cuts cuts).write]
      simp only [taking, ByteArray.append_assoc]
  · simp only [cuts.write, (cuts.append lineEnd).write]

/-- A write succeeds exactly if it fits. -/
theorem write_eq_ok_iff :
    (sink.write bytes).1 = .ok () ↔ sink.Takes bytes := by
  rcases sink.takes_or_cuts bytes with takes | ⟨part, cuts⟩
  · simp [takes.write, takes]
  · refine iff_of_false (by simp [cuts.write]) fun takes => ?_
    cases takes.write.symm.trans cuts.write

/-- A sink to which more was written. -/
structure Extends
    (before after : Sink) :
    Prop where
  sameCapacity : after.capacity = before.capacity
  sameReason : after.fullReason = before.fullReason
  written : ∃ output, after.written = before.written ++ output

theorem Extends.refl
    (sink : Sink) :
    sink.Extends sink :=
  ⟨rfl, rfl, .empty, ByteArray.append_empty.symm⟩

theorem Extends.trans
    {first second third : Sink}
    (earlier : first.Extends second)
    (later : second.Extends third) :
    first.Extends third := by
  obtain ⟨sameFirst, sameFirstReason, left, leftWritten⟩ := earlier
  obtain ⟨sameSecond, sameSecondReason, right, rightWritten⟩ := later
  refine
    ⟨sameSecond.trans sameFirst, sameSecondReason.trans sameFirstReason, left ++ right, ?_⟩
  rw [rightWritten, leftWritten, ByteArray.append_assoc]

theorem extends_write
    (sink : Sink)
    (bytes : ByteArray) :
    sink.Extends (sink.write bytes).2 := by
  rw [write]
  split <;> exact ⟨rfl, rfl, _, rfl⟩

/-- A sink without limit takes every write. -/
theorem write_unlimited
    (unlimited : sink.capacity = none) :
    sink.write bytes =
      (.ok (), { sink with written := sink.written ++ bytes }) :=
  Takes.write fun _ limited => nomatch unlimited.symm.trans limited

/-- A limited sink takes a write that fits as one without limit does. -/
theorem write_capped_of_le
    (fits : sink.written.size + bytes.size ≤ capacity) :
    (sink.capped capacity).write bytes =
      (.ok (), Sink.capped { sink with written := sink.written ++ bytes } capacity) := by
  apply Takes.write
  intro limit same
  cases same
  exact Nat.le_sub_of_add_le' fits

/-- A limited sink fails on a write that does not fit, and is filled with a part of it. -/
theorem write_capped_of_lt
    (room : sink.written.size ≤ capacity)
    (exceeds : capacity < sink.written.size + bytes.size) :
    (sink.capped capacity).write bytes =
      (.error (.inputOutput sink.fullReason),
        Sink.capped
          { sink with written := (sink.written ++ bytes).extract 0 capacity }
          capacity) := by
  have cuts :
      (sink.capped capacity).Cuts bytes
        (bytes.extract 0 (capacity - sink.written.size)) :=
    cuts_of_lt rfl (Nat.sub_lt_left_of_lt_add room exceeds)
  rw [cuts.write, capped, taking, capped, ByteArray.extract_append,
    extract_of_size_le room, Nat.zero_sub]

end Sink

/-- What a print does to the sink. -/
theorem Machine.perform_write
    (machine : Machine)
    (builtin : Builtin)
    (frame : Nat)
    (line : String) :
    machine.perform builtin frame (.write line) =
      ((machine.sink.write line.toUTF8).1,
        { machine with sink := (machine.sink.write line.toUTF8).2 }) := by
  rw [perform, Sink.writeLine_eq]

end FunctionScript
