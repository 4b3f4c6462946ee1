import FunctionScript.Proofs.Simulation

namespace FunctionScript

/-!
# Evaluation sees the chain of its frame

Two frames look alike if their chains have the same variables and the same functions
position by position, wherever the frames stand and whatever else is live. A run in
one of them is then a run in the other: both end or neither does, with the same
outcome and the same output, and the frames look alike again.
-/

namespace Environment

/-- Position by position, the chains of two frames have the same variables and functions. -/
structure SameAlong
    (first : Environment)
    (firstFrame : Nat)
    (second : Environment)
    (secondFrame : Nat) :
    Prop where
  «variables» :
    (first.chain firstFrame).map first.variables =
      (second.chain secondFrame).map second.variables
  functions :
    (first.chain firstFrame).map first.functions =
      (second.chain secondFrame).map second.functions

/-- Along chains with the same functions, the same function is found under every name. -/
theorem SameAlong.function?
    {first second : Environment}
    {firstFrame secondFrame : Nat}
    (same : SameAlong first firstFrame second secondFrame)
    (name : String) :
    first.function? .chain firstFrame name =
      second.function? .chain secondFrame name := by
  have foundIn
      (environment : Environment)
      (frame : Nat) :
      environment.function? .chain frame name =
        ((environment.chain frame).map environment.functions).findSome?
          fun table => table[name]? := by
    simp [Environment.function?, Reach.frames, List.findSome?_map, Function.comp_def]
  rw [foundIn, foundIn, same.functions]

/-- The functions on a chain stay as they are when variables change along it. -/
theorem ChangesAlong.map_functions
    {frame : Nat}
    {before after : Environment}
    (changed : ChangesAlong frame before after) :
    (after.chain frame).map after.functions =
      (before.chain frame).map before.functions := by
  rw [changed.toSameShape.chain]
  exact List.map_congr_left fun place _ => changed.functions place

end Environment

namespace Machine

/--
Both runs come to an end or neither does, and if they do, then with the same outcome
on machines that are related.
-/
structure EndAlike
    (firstRun secondRun : Nat → Run)
    (related : Machine → Machine → Prop) :
    Prop where
  returns :
    (∃ outcome after, Finishes firstRun outcome after) ↔
      ∃ outcome after, Finishes secondRun outcome after
  agree :
    ∀ firstOutcome first secondOutcome second,
      Finishes firstRun firstOutcome first →
        Finishes secondRun secondOutcome second →
          firstOutcome = secondOutcome ∧ related first second

namespace EndAlike

variable {firstRun secondRun : Nat → Run}

/-- Runs end alike if with any amount of fuel they look related from two frames. -/
theorem of_related
    {relation : View → View → Prop}
    {firstFrame secondFrame : Nat}
    (mono :
      ∀ fuel more result,
        fuel ≤ more → secondRun fuel = .ok result → secondRun more = .ok result)
    (related :
      ∀ fuel,
        View.Run.Related relation
          (Run.seenFrom firstFrame (firstRun fuel))
          (Run.seenFrom secondFrame (secondRun fuel))) :
    EndAlike firstRun secondRun fun first second =>
      relation (first.view firstFrame) (second.view secondFrame) := by
  refine ⟨⟨?_, ?_⟩, ?_⟩
  · intro ⟨outcome, after, fuel, ran⟩
    obtain ⟨other, otherRan, _⟩ := (related fuel).exists_of_finished ran
    exact ⟨outcome, other, fuel, otherRan⟩
  · intro ⟨outcome, after, fuel, ran⟩
    obtain ⟨other, otherRan, _⟩ := (related fuel).symm.exists_of_finished ran
    exact ⟨outcome, other, fuel, otherRan⟩
  · intro firstOutcome first secondOutcome second ⟨fuel, ran⟩ secondFinishes
    obtain ⟨other, otherRan, sameView⟩ := (related fuel).exists_of_finished ran
    obtain ⟨sameOutcome, same⟩ :=
      Finishes.unique mono ⟨fuel, otherRan⟩ secondFinishes
    exact ⟨sameOutcome, same ▸ sameView⟩

/-- What more is known of both ends may be added to how they are related. -/
theorem imp
    {related further : Machine → Machine → Prop}
    (alike : EndAlike firstRun secondRun related)
    (adds :
      ∀ firstOutcome first secondOutcome second,
        Finishes firstRun firstOutcome first →
          Finishes secondRun secondOutcome second →
            related first second →
              further first second) :
    EndAlike firstRun secondRun further where
  returns := alike.returns
  agree := by
    intro firstOutcome first secondOutcome second firstFinishes secondFinishes
    obtain ⟨sameOutcome, ends⟩ :=
      alike.agree _ _ _ _ firstFinishes secondFinishes
    exact ⟨sameOutcome, adds _ _ _ _ firstFinishes secondFinishes ends⟩

end EndAlike

/-- The sinks are the same, and two frames look alike. -/
structure LookAlike
    (first : Machine)
    (firstFrame : Nat)
    (second : Machine)
    (secondFrame : Nat) :
    Prop extends
      Environment.SameAlong first.environment firstFrame second.environment secondFrame
    where
  sink : first.sink = second.sink

namespace LookAlike

variable
  {first second : Machine}
  {firstFrame secondFrame : Nat}

theorem view
    (alike : LookAlike first firstFrame second secondFrame) :
    first.view firstFrame = second.view secondFrame := by
  simp only [Machine.view, Environment.scopes, alike.variables, alike.sink]

theorem known
    (alike : LookAlike first firstFrame second secondFrame) :
    first.known firstFrame = second.known secondFrame :=
  funext alike.toSameAlong.function?

/-- Frames that look alike do so again after changes along their chains, if they see the same. -/
theorem of_changesAlong
    {firstAfter secondAfter : Machine}
    (alike : LookAlike first firstFrame second secondFrame)
    (firstChanged :
      Environment.ChangesAlong firstFrame first.environment firstAfter.environment)
    (secondChanged :
      Environment.ChangesAlong secondFrame second.environment secondAfter.environment)
    (sameView : firstAfter.view firstFrame = secondAfter.view secondFrame) :
    LookAlike firstAfter firstFrame secondAfter secondFrame where
  «variables» := congrArg View.scopes sameView
  functions := by
    rw [firstChanged.map_functions, secondChanged.map_functions, alike.functions]
  sink := congrArg View.sink sameView

/-- Runs that change no more than two frames' chains end alike if they look the same from there. -/
theorem endAlike
    {firstRun secondRun : Nat → Run}
    (alike : LookAlike first firstFrame second secondFrame)
    (mono :
      ∀ fuel more result,
        fuel ≤ more → secondRun fuel = .ok result → secondRun more = .ok result)
    (sameSeen :
      ∀ fuel,
        Run.seenFrom firstFrame (firstRun fuel) =
          Run.seenFrom secondFrame (secondRun fuel))
    (firstKeeps :
      ∀ fuel outcome after,
        firstRun fuel = .ok (outcome, after) →
          Environment.ChangesAlong firstFrame first.environment after.environment)
    (secondKeeps :
      ∀ fuel outcome after,
        secondRun fuel = .ok (outcome, after) →
          Environment.ChangesAlong secondFrame second.environment after.environment) :
    EndAlike firstRun secondRun fun firstAfter secondAfter =>
      LookAlike firstAfter firstFrame secondAfter secondFrame := by
  have sameViews :=
    EndAlike.of_related mono fun fuel => View.Run.Related.of_eq (sameSeen fuel)
  apply sameViews.imp
  intro _ firstAfter _ secondAfter ⟨_, firstRan⟩ ⟨_, secondRan⟩ sameView
  exact alike.of_changesAlong (firstKeeps _ _ _ firstRan) (secondKeeps _ _ _ secondRan)
    sameView

end LookAlike

/--
Evaluation sees no more of a machine than the sink and the chain of the frame in
which it runs: in frames that look alike, commands and functions end alike, and they
leave frames that look alike.
-/
theorem evaluation_local
    {first second : Machine}
    {firstFrame secondFrame : Nat}
    (firstLive : first.environment.isLive firstFrame)
    (secondLive : second.environment.isLive secondFrame)
    (alike : LookAlike first firstFrame second secondFrame) :
    (∀ command,
      EndAlike
        (fun fuel => first.runCommand fuel firstFrame command)
        (fun fuel => second.runCommand fuel secondFrame command)
        fun firstAfter secondAfter =>
          LookAlike firstAfter firstFrame secondAfter secondFrame) ∧
    ∀ function,
      EndAlike
        (fun fuel => first.call fuel function firstFrame)
        (fun fuel => second.call fuel function secondFrame)
        fun firstAfter secondAfter =>
          LookAlike firstAfter firstFrame secondAfter secondFrame := by
  constructor
  · intro command
    apply alike.endAlike (fun _ _ _ => runCommand_mono)
    · intro fuel
      rw [seenFrom_runCommand firstLive, seenFrom_runCommand secondLive, alike.known,
        alike.view]
    · exact fun _ _ _ => kept_changesAlong.runCommand
    · exact fun _ _ _ => kept_changesAlong.runCommand
  · intro function
    apply alike.endAlike (fun _ _ _ => call_mono)
    · intro fuel
      rw [seenFrom_call firstLive, seenFrom_call secondLive, alike.known, alike.view]
    · exact fun _ _ _ => kept_changesAlong.call
    · exact fun _ _ _ => kept_changesAlong.call

/-- A body that assigns one variable from another, and prints it. -/
def copyAndPrint : Composite where
  name := "copy"
  commands := [
    ⟨"create", [⟨"id", .literal "x"⟩, ⟨"value", .ref "y"⟩]⟩,
    ⟨"print", [⟨"value", .ref "x"⟩]⟩]

/-- The bare machine with a frame that has one variable. -/
def bareWithLocal : Machine :=
  { bare with environment := bare.environment.extend Environment.root [("y", "one")] }

/-- The same frame, made after a sibling with a variable of its own. -/
def bareBehindSibling : Machine :=
  { bare with
    environment :=
      (bare.environment.extend Environment.root [("x", "hidden")]).extend
        Environment.root [("y", "one")] }

/-- A variable of the sibling makes no difference to what is assigned and printed. -/
theorem copyAndPrint_local :
    bareWithLocal.environment.isLive 1 ∧
      bareBehindSibling.environment.isLive 2 ∧
      LookAlike bareWithLocal 1 bareBehindSibling 2 ∧
      ∃ firstAfter secondAfter,
        Finishes
            (fun fuel => bareWithLocal.call fuel (.composite copyAndPrint) 1)
            (.ok ()) firstAfter ∧
          Finishes
            (fun fuel => bareBehindSibling.call fuel (.composite copyAndPrint) 2)
            (.ok ()) secondAfter ∧
          firstAfter.sink.written = "one\n".toUTF8 ∧
          LookAlike firstAfter 1 secondAfter 2 := by
  have alike : LookAlike bareWithLocal 1 bareBehindSibling 2 := by
    refine ⟨⟨?_, ?_⟩, rfl⟩
    · decide +kernel
    · decide +kernel
  have prints :
      (bareWithLocal.call 1 (.composite copyAndPrint) 1).toOption.map
          (fun ended => (ended.1.isOk, ended.2.sink.written)) =
        some (true, "one\n".toUTF8) := by
    decide +kernel
  obtain ⟨outcome, firstAfter, ran, observed⟩ := exists_of_observed prints
  obtain ⟨isOk, written⟩ := Prod.mk.inj observed
  obtain rfl := eq_ok_of_isOk isOk
  have firstFinishes :
      Finishes (fun fuel => bareWithLocal.call fuel (.composite copyAndPrint) 1)
        (.ok ()) firstAfter :=
    ⟨1, ran⟩
  have endAlike := (evaluation_local rfl rfl alike).2 (.composite copyAndPrint)
  obtain ⟨_, secondAfter, secondFinishes⟩ :=
    endAlike.returns.mp ⟨_, _, firstFinishes⟩
  obtain ⟨rfl, alikeAfter⟩ := endAlike.agree _ _ _ _ firstFinishes secondFinishes
  exact ⟨rfl, rfl, alike, firstAfter, secondAfter, firstFinishes, secondFinishes,
    written, alikeAfter⟩

end Machine

end FunctionScript
