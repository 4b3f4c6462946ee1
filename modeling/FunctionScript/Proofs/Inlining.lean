import FunctionScript.Proofs.Simulation

namespace FunctionScript

/-!
# Inlining

A command without arguments enters a frame that binds nothing. Such a blank scope
stays blank whatever runs above it: lookups pass through it, no assignment, update
or removal ever lands in it, and it is never the root. So the commands of the
called function may as well run in the caller's frame, unless one of them reads a
variable of its own frame only.
-/

/-- The second list has a blank scope at a place of the first that is not behind its end. -/
inductive Scopes.Padded :
    Nat →
    Scopes →
    Scopes →
    Prop where
  | here
      (scope : Table String)
      (outer : Scopes) :
      Padded 0 (scope :: outer) (∅ :: scope :: outer)
  | behind
      (scope : Table String)
      {level : Nat}
      {plain padded : Scopes} :
      Padded level plain padded →
      Padded (level + 1) (scope :: plain) (scope :: padded)

namespace Scopes.Padded

variable
  {level : Nat}
  {plain padded : Scopes}

/-- A blank scope is passed over when a variable is looked up along the chain. -/
theorem chainValue?
    (related : Padded level plain padded)
    (name : String) :
    padded.value? .chain name = plain.value? .chain name := by
  induction related with
  | here scope outer => simp [Scopes.value?]
  | behind scope _ inductionHypothesis =>
      simp only [Scopes.value?] at inductionHypothesis
      simp [Scopes.value?, List.findSome?_cons, inductionHypothesis]

theorem head?
    (related : Padded (level + 1) plain padded) :
    padded.head? = plain.head? := by
  cases related
  rfl

theorem tail
    (related : Padded (level + 1) plain padded) :
    Padded level plain.tail padded.tail := by
  cases related
  assumption

/-- A change of the nearest scope that binds a name passes over the blank scope. -/
theorem changeNearest?
    (related : Padded level plain padded)
    (name : String)
    (change : Table String → Table String) :
    Option.Rel (Padded level)
      (plain.changeNearest? name change) (padded.changeNearest? name change) := by
  induction related with
  | here scope outer =>
      have passedOver :
          Scopes.changeNearest? name change (∅ :: scope :: outer) =
            (Scopes.changeNearest? name change (scope :: outer)).map (∅ :: ·) := by
        simp [Scopes.changeNearest?]
      rw [passedOver, Scopes.changeNearest?]
      by_cases binds : scope.contains name
      · simpa [binds] using Option.Rel.some (Padded.here (change scope) outer)
      · simp only [binds, Bool.false_eq_true, ↓reduceIte]
        cases Scopes.changeNearest? name change outer with
        | none => exact .none
        | some changed => exact .some (.here scope changed)
  | @behind scope level plain padded related inductionHypothesis =>
      simp only [Scopes.changeNearest?]
      by_cases binds : scope.contains name
      · simpa [binds] using Option.Rel.some (related.behind (change scope))
      · simp only [binds, Bool.false_eq_true, ↓reduceIte]
        generalize Scopes.changeNearest? name change plain = plainChanged
          at inductionHypothesis ⊢
        generalize Scopes.changeNearest? name change padded = paddedChanged
          at inductionHypothesis ⊢
        cases inductionHypothesis with
        | none => exact .none
        | some changed => exact .some (changed.behind scope)

/-- A change of the outermost scope never falls on the blank scope. -/
theorem changeOutermost
    (related : Padded level plain padded)
    (change : Table String → Table String) :
    Padded level
      (plain.changeOutermost change) (padded.changeOutermost change) := by
  induction related with
  | here scope outer =>
      cases outer with
      | nil => exact .here (change scope) []
      | cons next outer => exact .here scope _
  | behind scope related inductionHypothesis =>
      cases related with
      | here next outer => exact .behind scope inductionHypothesis
      | behind next related => exact .behind scope inductionHypothesis

/-- An assignment passes over the blank scope. -/
theorem assign
    (related : Padded level plain padded)
    (name value : String) :
    Padded level (plain.assign name value) (padded.assign name value) := by
  have updated := related.changeNearest? name fun scope => scope.insert name value
  have created := related.changeOutermost fun scope => scope.insert name value
  simp only [Scopes.assign, Scopes.update?]
  generalize plain.changeNearest? name _ = plainChanged at updated ⊢
  generalize padded.changeNearest? name _ = paddedChanged at updated ⊢
  cases updated with
  | none => exact created
  | some changed => exact changed

/-- Arguments resolve alike unless one is read from a blank scope in front. -/
theorem argumentValues
    (related : Padded level plain padded)
    (command : Command)
    (visible :
      level = 0 →
        ∀ argument ∈ command.arguments, ∀ name, argument.source ≠ .param name) :
    padded.argumentValues command = plain.argumentValues command := by
  simp only [Scopes.argumentValues]
  apply List.map_congr_left
  intro argument member
  simp only [Prod.mk.injEq, true_and]
  cases source : argument.source with
  | literal text => rfl
  | ref name => simp only [Scopes.resolve, related.chainValue?]
  | param name =>
      cases level with
      | zero => exact absurd source (visible rfl argument member name)
      | succ level => simp only [Scopes.resolve, Scopes.value?, related.head?]

end Scopes.Padded

/-- Whether no command of a composite function reads a variable of its own frame only. -/
def Composite.ReadsNoParam
    (body : Composite) :
    Prop :=
  ∀ command ∈ body.commands, ∀ argument ∈ command.arguments, ∀ name,
    argument.source ≠ .param name

namespace View

/-- The second view has a blank scope more. -/
structure Padded
    (level : Nat)
    (plain padded : View) :
    Prop where
  scopes : Scopes.Padded level plain.scopes padded.scopes
  sink : padded.sink = plain.sink

/--
What runs in front of the blank scope is not restricted; what runs in the blank
scope itself is a composite function that reads no variable of its own frame.
-/
def AdmittedInBlank :
    Nat →
    Function →
    Prop
  | 0, .composite body => body.ReadsNoParam
  | 0, .builtin _ => False
  | _ + 1, _ => True

namespace Padded

variable
  {level : Nat}
  {plain padded : View}

theorem changed
    (related : Padded level plain padded)
    (builtin : Builtin)
    (name : String)
    {plainScopes paddedScopes : Option Scopes}
    (sameChange :
      Option.Rel (Scopes.Padded level) plainScopes paddedScopes) :
    (plain.changed builtin name plainScopes).1 =
        (padded.changed builtin name paddedScopes).1 ∧
      Padded level
        (plain.changed builtin name plainScopes).2
        (padded.changed builtin name paddedScopes).2 := by
  cases sameChange with
  | none => exact ⟨rfl, related⟩
  | some changed => exact ⟨rfl, changed, related.sink⟩

theorem perform
    (related : Padded level plain padded)
    (builtin : Builtin)
    (effect : Effect) :
    (plain.perform builtin effect).1 = (padded.perform builtin effect).1 ∧
      Padded level
        (plain.perform builtin effect).2 (padded.perform builtin effect).2 := by
  cases effect with
  | assign name value =>
      exact ⟨rfl, related.scopes.assign name value, related.sink⟩
  | update name value =>
      exact related.changed builtin name (related.scopes.changeNearest? name _)
  | delete name =>
      exact related.changed builtin name (related.scopes.changeNearest? name _)
  | write line =>
      simp only [View.perform, related.sink]
      exact ⟨trivial, related.scopes, rfl⟩

/-- A builtin function in front of the blank scope has the same outcome in both views. -/
theorem execute
    (related : Padded (level + 1) plain padded)
    (builtin : Builtin) :
    (plain.execute builtin).1 = (padded.execute builtin).1 ∧
      Padded (level + 1)
        (plain.execute builtin).2 (padded.execute builtin).2 := by
  have sameScope : padded.scopes.headD ∅ = plain.scopes.headD ∅ := by
    simp only [List.headD_eq_head?_getD, related.scopes.head?]
  simp only [View.execute, sameScope]
  cases builtin.effectOf (plain.scopes.headD ∅) with
  | error failure => exact ⟨rfl, related⟩
  | ok effect => exact related.perform builtin effect

end Padded

/-- A view runs in lockstep with the same view that has a blank scope more. -/
theorem simulation_padded
    (known : String → Option Function) :
    Simulation known Padded AdmittedInBlank where
  execute := by
    intro level builtin left right admitted related
    cases level with
    | zero => cases admitted
    | succ level => exact related.execute builtin
  enter := by
    intro level body command left right admitted member related
    have visible :
        level = 0 →
          ∀ argument ∈ command.arguments, ∀ name, argument.source ≠ .param name := by
      rintro rfl
      exact admitted command member
    refine ⟨?_, related.sink⟩
    simp only [enter, related.scopes.argumentValues command visible]
    exact related.scopes.behind _
  callee := fun _ _ _ _ _ _ _ => trivial
  leave := by
    intro level left right related
    exact ⟨related.scopes.tail, related.sink⟩

theorem Padded.leave_eq
    {plain padded : View}
    (related : Padded 0 plain padded) :
    padded.leave = plain := by
  obtain ⟨plainScopes, plainSink⟩ := plain
  obtain ⟨paddedScopes, paddedSink⟩ := padded
  obtain ⟨scopes, sink⟩ := related
  cases scopes
  cases sink
  rfl

/-- Calling a function behind a blank scope is calling it without. -/
theorem call_blank
    (known : String → Option Function)
    (fuel : Nat)
    {body : Composite}
    (readsNoParam : body.ReadsNoParam)
    {plain padded : View}
    (related : Padded 0 plain padded) :
    (call known fuel (.composite body) padded).map
        (fun (outcome, after) => (outcome, after.leave)) =
      call known fuel (.composite body) plain := by
  have lockstep :=
    (simulation_padded known).call fuel
      (show AdmittedInBlank 0 (.composite body) from readsNoParam) related
  generalize call known fuel (.composite body) padded = paddedRun at lockstep ⊢
  generalize call known fuel (.composite body) plain = plainRun at lockstep ⊢
  cases lockstep with
  | stopped stop => rfl
  | finished outcome afterRelated =>
      simp only [Except.map, afterRelated.leave_eq]

end View

namespace Machine

variable
  {machine : Machine}
  {caller : Nat}
  {command : Command}
  {body : Composite}

/-- Without arguments, a command looks to its caller like its function run in the caller's frame. -/
theorem seenFrom_runCommand_eq_call
    (live : machine.environment.isLive caller)
    (withoutArguments : command.arguments = [])
    (found :
      machine.environment.function? .chain caller command.target =
        some (.composite body))
    (readsNoParam : body.ReadsNoParam)
    (fuel : Nat) :
    Run.seenFrom caller (machine.runCommand fuel caller command) =
      Run.seenFrom caller (machine.call fuel (.composite body) caller) := by
  have knownTarget :
      machine.known caller command.target = some (.composite body) :=
    found
  have blankInFront :
      View.Padded 0 (machine.view caller) ((machine.view caller).enter command) := by
    refine ⟨?_, rfl⟩
    simp only [View.enter, view, Scopes.argumentValues, withoutArguments, List.map_nil,
      Table.ofEntries, List.foldl_nil, Environment.scopes_of_isLive live]
    exact .here _ _
  rw [seenFrom_runCommand live, seenFrom_call live,
    ← View.call_blank _ fuel readsNoParam blankInFront]
  simp only [View.dispatch, knownTarget]

/--
A command without arguments runs as the commands of its function do in the caller's
frame, if none of these reads a variable of its own frame only.
-/
theorem runCommand_inlined
    (live : machine.environment.isLive caller)
    (withoutArguments : command.arguments = [])
    (found :
      machine.environment.function? .chain caller command.target =
        some (.composite body))
    (readsNoParam : body.ReadsNoParam) :
    ((∃ outcome after,
        Finishes (fun fuel => machine.runCommand fuel caller command) outcome after) ↔
      ∃ outcome after,
        Finishes (fun fuel => inOrder (runCommand fuel caller) body.commands machine)
          outcome after) ∧
      ∀ outcome after inner direct,
        Finishes (fun fuel => machine.runCommand fuel caller command) outcome after →
        Finishes (fun fuel => inOrder (runCommand fuel caller) body.commands machine)
          inner direct →
        outcome = inner.mapError (.inFunction body.name) ∧
          after.sink = direct.sink ∧
          after.environment = direct.environment := by
  have sameSeen :=
    seenFrom_runCommand_eq_call live withoutArguments found readsNoParam
  have inlines :
      ∀ {outcome after},
        Finishes (fun fuel => machine.runCommand fuel caller command) outcome after →
        ∃ inner direct,
          Finishes (fun fuel => inOrder (runCommand fuel caller) body.commands machine)
              inner direct ∧
            outcome = inner.mapError (.inFunction body.name) ∧
            direct.view caller = after.view caller := by
    rintro outcome after ⟨fuel, ran⟩
    obtain ⟨direct, called, sameView⟩ :=
      Run.exists_of_seenFrom (sameSeen fuel) ran
    obtain ⟨less, inner, -, commandsRan, ended⟩ :=
      call_composite_eq_ok_iff.mp called
    exact ⟨inner, direct, ⟨less, commandsRan⟩, ended, sameView⟩
  refine ⟨⟨?_, ?_⟩, ?_⟩
  · rintro ⟨outcome, after, finishes⟩
    obtain ⟨inner, direct, directFinishes, -, -⟩ := inlines finishes
    exact ⟨inner, direct, directFinishes⟩
  · rintro ⟨inner, direct, fuel, ran⟩
    have called :=
      call_composite_eq_ok_iff.mpr ⟨fuel, inner, rfl, ran, rfl⟩
    obtain ⟨after, commandRan, -⟩ :=
      Run.exists_of_seenFrom (sameSeen (fuel + 1)).symm called
    exact ⟨_, after, fuel + 1, commandRan⟩
  · intro outcome after inner direct finishes directFinishes
    obtain ⟨otherInner, otherDirect, otherFinishes, ended, sameView⟩ :=
      inlines finishes
    obtain ⟨rfl, rfl⟩ :=
      Finishes.unique (fun _ _ _ => commands_mono) otherFinishes directFinishes
    obtain ⟨_, commandRan⟩ := finishes
    obtain ⟨_, directRan⟩ := directFinishes
    exact ⟨ended, congrArg View.sink sameView.symm,
      environment_eq_of_view
        (kept_changesAlong.runCommand commandRan)
        (kept_changesAlong.commands directRan)
        sameView.symm⟩

/-- A body that binds a variable and hands it to a function that prints it. -/
def relay : Composite where
  name := "relay"
  commands := [
    ⟨"create", [⟨"id", .literal "x"⟩, ⟨"value", .literal "one"⟩]⟩,
    ⟨"show", [⟨"text", .ref "x"⟩]⟩]

/-- A root that binds two composite functions, and one frame above it. -/
def relaying : Machine where
  environment :=
    (Environment.initial.overlayRoot
      ((Function.builtins.insert "relay" (.composite relay)).insert "show"
        (.composite ⟨"show", [⟨"print", [⟨"value", .param "text"⟩]⟩]⟩))
      ∅).push Environment.root
  sink := .unlimited
  log := #[]

/-- To relay in a frame of its own comes to the same as to relay in the caller's frame. -/
theorem relay_inlined :
    ∃ after direct,
      Finishes (fun fuel => relaying.runCommand fuel 1 ⟨"relay", []⟩) (.ok ()) after ∧
        Finishes (fun fuel => inOrder (runCommand fuel 1) relay.commands relaying)
          (.ok ()) direct ∧
        after.sink = direct.sink ∧
        after.environment = direct.environment ∧
        after.sink.written = "one\n".toUTF8 := by
  have live : relaying.environment.isLive 1 := by decide
  have found :
      relaying.environment.function? .chain 1 "relay" = some (.composite relay) := by
    decide +kernel
  have readsNoParam : relay.ReadsNoParam := by
    simp [Composite.ReadsNoParam, relay]
  have succeeds :
      (inOrder (runCommand 1 1) relay.commands relaying).toOption.map
          (fun ended => (ended.1.isOk, ended.2.sink.written)) =
        some (true, "one\n".toUTF8) := by
    decide +kernel
  obtain ⟨inner, direct, ran, observed⟩ := exists_of_observed succeeds
  obtain ⟨isOk, written⟩ := Prod.mk.inj observed
  obtain rfl := eq_ok_of_isOk isOk
  have directFinishes :
      Finishes (fun fuel => inOrder (runCommand fuel 1) relay.commands relaying)
        (.ok ()) direct :=
    ⟨1, ran⟩
  obtain ⟨returns, agrees⟩ :=
    runCommand_inlined live (show Command.arguments ⟨"relay", []⟩ = [] from rfl)
      found readsNoParam
  obtain ⟨outcome, after, finishes⟩ := returns.mpr ⟨_, direct, directFinishes⟩
  obtain ⟨rfl, sameSink, sameEnvironment⟩ := agrees _ _ _ _ finishes directFinishes
  exact ⟨after, direct, finishes, directFinishes, sameSink, sameEnvironment,
    (congrArg Sink.written sameSink).trans written⟩

end Machine

end FunctionScript
