import Mathlib.Data.List.Nodup
import FunctionScript.Proofs.Simulation
import FunctionScript.Proofs.TableLookup

namespace FunctionScript

/-!
# Binding arguments

The arguments of a command are resolved as the caller sees them, before there is a
frame for the function, and then bound there all at once: under each name stands the
value of its last argument. So it makes no difference in which order a command lists
its arguments, or what the earlier ones of a name were.
-/

/-- Where the last argument of a name has its value from. -/
def Argument.lastSource?
    (arguments : List Argument)
    (name : String) :
    Option Argument.Source :=
  (arguments.reverse.find? fun argument => argument.name == name).map Argument.source

/-- The value that arguments hand over under a name, as the caller sees it. -/
def Environment.handed?
    (environment : Environment)
    (caller : Nat)
    (arguments : List Argument)
    (name : String) :
    Option String :=
  (Argument.lastSource? arguments name).map (environment.resolve caller)

namespace Argument

variable
  {first second : List Argument}
  {name : String}

/-- Looking a name up among pairs made from arguments is finding the first argument of the name. -/
theorem lookup_map
    (arguments : List Argument)
    (value : Source → α)
    (name : String) :
    (arguments.map fun argument => (argument.name, value argument.source)).lookup name =
      (arguments.find? fun argument => argument.name == name).map
        fun argument => value argument.source := by
  induction arguments with
  | nil => rfl
  | cons argument rest inductionHypothesis =>
      by_cases same : argument.name = name
      · simp [same]
      · simp [List.lookup_cons, same, beq_eq_false_iff_ne.mpr (Ne.symm same),
          inductionHypothesis]

/-- There is a last argument of exactly the names that arguments have. -/
theorem isSome_lastSource?
    (arguments : List Argument)
    (name : String) :
    (lastSource? arguments name).isSome ↔
      ∃ argument ∈ arguments, argument.name = name := by
  simp [lastSource?]

theorem lastSource?_eq_none_iff
    {arguments : List Argument} :
    lastSource? arguments name = none ↔ ∀ argument ∈ arguments, argument.name ≠ name := by
  simp [lastSource?]

/-- Among arguments with distinct names, every argument is the last of its name. -/
theorem lastSource?_eq_some_iff
    {arguments : List Argument}
    (distinct : (arguments.map Argument.name).Nodup)
    {source : Source} :
    lastSource? arguments name = some source ↔ ⟨name, source⟩ ∈ arguments := by
  have distinctEntries :
      ((arguments.reverse.map fun argument => (argument.name, argument.source)).map
        Prod.fst).Nodup := by
    rw [List.map_map, List.map_reverse, List.nodup_reverse]
    exact distinct
  have asLookup := lookup_map arguments.reverse id name
  simp only [id_eq] at asLookup
  rw [lastSource?, ← asLookup, Table.lookup_eq_some_iff_mem distinctEntries]
  constructor
  · intro listed
    obtain ⟨argument, member, same⟩ := List.mem_map.mp listed
    cases same
    exact List.mem_reverse.mp member
  · intro member
    exact List.mem_map.mpr ⟨_, List.mem_reverse.mpr member, rfl⟩

/-- Arguments with distinct names may be listed in any order. -/
theorem lastSource?_of_perm
    (permuted : first.Perm second)
    (distinct : (first.map Argument.name).Nodup) :
    lastSource? first name = lastSource? second name := by
  have secondDistinct : (second.map Argument.name).Nodup :=
    (permuted.map Argument.name).nodup_iff.mp distinct
  ext source
  rw [lastSource?_eq_some_iff distinct, lastSource?_eq_some_iff secondDistinct,
    permuted.mem_iff]

end Argument

/-- In the table of a command's arguments stands the value of the last one of each name. -/
theorem Scopes.getElem?_argumentValues
    (scopes : Scopes)
    (command : Command)
    (name : String) :
    (Table.ofEntries (scopes.argumentValues command))[name]? =
      (Argument.lastSource? command.arguments name).map scopes.resolve := by
  rw [Table.getElem?_ofEntries, argumentValues, ← List.map_reverse,
    Argument.lookup_map, Argument.lastSource?, Option.map_map]
  rfl

theorem Environment.getElem?_argumentValues
    (environment : Environment)
    (caller : Nat)
    (command : Command)
    (name : String) :
    (Table.ofEntries (environment.argumentValues caller command))[name]? =
      environment.handed? caller command.arguments name := by
  rw [argumentValues_eq, Scopes.getElem?_argumentValues, handed?,
    funext (environment.resolve_eq caller)]

namespace Machine

/--
How the function of a command starts: in a fresh frame under the caller, which binds the
names of the arguments and nothing else, each to the value that was handed over under
it before the frame was there; all other frames are as they were.
-/
structure StartsFresh
    (before : Machine)
    (caller : Nat)
    (arguments : List Argument)
    (entered : Machine) :
    Prop where
  depth : entered.environment.depth = before.environment.depth + 1
  parent : entered.environment.parent? before.environment.depth = some caller
  names :
    ∀ name : String,
      name ∈ entered.environment.variables before.environment.depth ↔
        ∃ argument ∈ arguments, argument.name = name
  values :
    ∀ name : String,
      (entered.environment.variables before.environment.depth)[name]? =
        before.environment.handed? caller arguments name
  functions : entered.environment.functions before.environment.depth = ∅
  others :
    ∀ place,
      before.environment.isLive place →
        entered.environment.parent? place = before.environment.parent? place ∧
          entered.environment.variables place = before.environment.variables place ∧
          entered.environment.functions place = before.environment.functions place
  sink : entered.sink = before.sink

theorem startsFresh_enter
    (machine : Machine)
    (caller : Nat)
    (command : Command)
    (function : Function) :
    StartsFresh machine caller command.arguments
      (machine.enter caller command function) := by
  have bound
      (name : String) :
      ((machine.enter caller command function).environment.variables
          machine.environment.depth)[name]? =
        machine.environment.handed? caller command.arguments name := by
    rw [environment_enter, Environment.variables_extend, if_pos rfl,
      Environment.getElem?_argumentValues]
  constructor
  case depth => exact depth_enter machine caller command function
  case parent => rw [environment_enter, Environment.parent?_extend, if_pos rfl]
  case names =>
    intro name
    rw [Std.ExtTreeMap.mem_iff_isSome_getElem?, bound, Environment.handed?,
      Option.isSome_map, Argument.isSome_lastSource?]
  case values => exact bound
  case functions =>
    rw [environment_enter, Environment.functions_extend]
    exact Environment.functions_of_depth_le (Nat.le_refl _)
  case others =>
    intro place live
    have before : place ≠ machine.environment.depth :=
      Nat.ne_of_lt (Environment.isLive_iff.mp live)
    rw [environment_enter, Environment.parent?_extend, Environment.variables_extend,
      Environment.functions_extend, if_neg before, if_neg before]
    exact ⟨rfl, rfl, rfl⟩
  case sink => rfl

/-- What a run shows apart from its log: how it ended, and what environment and sink it left. -/
def Run.observed
    (run : Run) :
    Except Stop (Outcome × Environment × Sink) :=
  run.map fun (outcome, after) => (outcome, after.environment, after.sink)

/-- Runs that change no more than one chain, and look the same from its frame, show the same. -/
theorem Run.observed_eq_of_seenFrom
    (frame : Nat)
    {before : Machine}
    {first second : Run}
    (same : seenFrom frame first = seenFrom frame second)
    (firstKeeps :
      ∀ outcome after,
        first = .ok (outcome, after) →
          Environment.ChangesAlong frame before.environment after.environment)
    (secondKeeps :
      ∀ outcome after,
        second = .ok (outcome, after) →
          Environment.ChangesAlong frame before.environment after.environment) :
    observed first = observed second := by
  rcases first with stop | ⟨outcome, after⟩
  · rcases second with otherStop | ended
    · cases same
      rfl
    · cases same
  · obtain ⟨other, rfl, sameView⟩ := exists_of_seenFrom same rfl
    have sameEnvironment : after.environment = other.environment :=
      environment_eq_of_view (firstKeeps _ _ rfl) (secondKeeps _ _ rfl) sameView.symm
    have sameSink : other.sink = after.sink := congrArg View.sink sameView
    simp only [observed, Except.map, sameEnvironment, sameSink]

/-- A command shows the same with any other arguments that hand over the same values. -/
theorem runCommand_observed_congr
    {machine : Machine}
    {caller : Nat}
    {first second : List Argument}
    (target : String)
    (sameHanded :
      ∀ name,
        machine.environment.handed? caller first name =
          machine.environment.handed? caller second name)
    (fuel : Nat) :
    Run.observed (machine.runCommand fuel caller ⟨target, first⟩) =
      Run.observed (machine.runCommand fuel caller ⟨target, second⟩) := by
  by_cases live : machine.environment.isLive caller
  · have sameTable :
        Table.ofEntries (machine.environment.argumentValues caller ⟨target, first⟩) =
          Table.ofEntries (machine.environment.argumentValues caller ⟨target, second⟩) := by
      apply Std.ExtTreeMap.ext_getElem?
      intro name
      rw [Environment.getElem?_argumentValues, Environment.getElem?_argumentValues,
        sameHanded]
    have sameEntered :
        (machine.view caller).enter ⟨target, first⟩ =
          (machine.view caller).enter ⟨target, second⟩ := by
      simp only [Environment.argumentValues_eq] at sameTable
      simp only [View.enter, view, sameTable]
    apply Run.observed_eq_of_seenFrom caller
    · rw [seenFrom_runCommand live, seenFrom_runCommand live, View.dispatch, View.dispatch,
        sameEntered]
    · exact fun _ _ => kept_changesAlong.runCommand
    · exact fun _ _ => kept_changesAlong.runCommand
  · simp [runCommand, dispatch, live]

/--
The arguments of a command are bound at once, in a fresh frame, to what they are when
the command is called. Two lists of arguments that hand over the same values under all
names make no difference to what a command shows; in particular lists in which the
last arguments of each name agree, and lists of arguments with distinct names that
differ in their order.
-/
theorem arguments_boundAtOnce :
    (∀ (machine : Machine) caller command function,
      machine.environment.isLive caller →
        machine.environment.function? .chain caller command.target = some function →
          StartsFresh machine caller command.arguments
              (machine.enter caller command function) ∧
            ∀ fuel,
              machine.runCommand fuel caller command =
                Except.map
                  (fun (outcome, after) => (outcome, after.leave machine.environment.depth))
                  ((machine.enter caller command function).call fuel function
                    machine.environment.depth)) ∧
    (∀ target first second (machine : Machine) caller,
      (∀ name,
        machine.environment.handed? caller first name =
          machine.environment.handed? caller second name) →
        ∀ fuel,
          Run.observed (machine.runCommand fuel caller ⟨target, first⟩) =
            Run.observed (machine.runCommand fuel caller ⟨target, second⟩)) ∧
    (∀ target first second,
      (∀ name, Argument.lastSource? first name = Argument.lastSource? second name) →
        ∀ (machine : Machine) caller fuel,
          Run.observed (machine.runCommand fuel caller ⟨target, first⟩) =
            Run.observed (machine.runCommand fuel caller ⟨target, second⟩)) ∧
    ∀ target (first second : List Argument),
      first.Perm second →
        (first.map Argument.name).Nodup →
          ∀ (machine : Machine) caller fuel,
            Run.observed (machine.runCommand fuel caller ⟨target, first⟩) =
              Run.observed (machine.runCommand fuel caller ⟨target, second⟩) := by
  have ofSameSources
      {target : String}
      {first second : List Argument}
      (sameSources :
        ∀ name, Argument.lastSource? first name = Argument.lastSource? second name)
      (machine : Machine)
      (caller fuel : Nat) :
      Run.observed (machine.runCommand fuel caller ⟨target, first⟩) =
        Run.observed (machine.runCommand fuel caller ⟨target, second⟩) := by
    apply runCommand_observed_congr
    intro name
    simp only [Environment.handed?, sameSources]
  refine ⟨?_, ?_, ?_, ?_⟩
  · intro machine caller command function live found
    refine ⟨startsFresh_enter machine caller command function, fun fuel => ?_⟩
    simp only [runCommand, dispatch, live, ↓reduceIte, found]
  · intro target first second machine caller sameHanded
    exact runCommand_observed_congr target sameHanded
  · exact fun target first second => ofSameSources
  · intro target first second permuted distinct
    exact ofSameSources fun name => Argument.lastSource?_of_perm permuted distinct

/-- Arguments that assign `z` the caller's own `id`, though they hand over an `id` themselves. -/
def labelled : List Argument :=
  [⟨"id", .literal "z"⟩, ⟨"value", .param "id"⟩]

/-- The same with an earlier value, which does not count, and in another order. -/
def relabelled : List Argument :=
  [⟨"value", .literal "unused"⟩, ⟨"value", .param "id"⟩, ⟨"id", .literal "z"⟩]

/-- The bare machine with a frame that binds `id`. -/
def bareWithId : Machine :=
  { bare with environment := bare.environment.extend Environment.root [("id", "w")] }

/-- The value is the `id` of the caller's frame, in whatever order the arguments stand. -/
theorem labelled_boundAtOnce :
    bareWithId.environment.isLive 1 ∧
      bareWithId.environment.function? .chain 1 "create" = some (.builtin .create) ∧
      StartsFresh bareWithId 1 labelled
        (bareWithId.enter 1 ⟨"create", labelled⟩ (.builtin .create)) ∧
      bareWithId.environment.handed? 1 labelled "value" = some "w" ∧
      (∀ name,
        Argument.lastSource? labelled name = Argument.lastSource? relabelled name) ∧
      Run.observed (bareWithId.runCommand 0 1 ⟨"create", labelled⟩) =
        Run.observed (bareWithId.runCommand 0 1 ⟨"create", relabelled⟩) ∧
      labelled.Perm labelled.reverse ∧
      (labelled.map Argument.name).Nodup ∧
      Run.observed (bareWithId.runCommand 0 1 ⟨"create", labelled⟩) =
        Run.observed (bareWithId.runCommand 0 1 ⟨"create", labelled.reverse⟩) := by
  obtain ⟨starts, ofHanded, ofSources, ofPerm⟩ := arguments_boundAtOnce
  have found :
      bareWithId.environment.function? .chain 1 "create" = some (.builtin .create) := by
    decide +kernel
  have sameSources
      (name : String) :
      Argument.lastSource? labelled name = Argument.lastSource? relabelled name := by
    by_cases isId : "id" = name
    · subst isId
      rfl
    · by_cases isValue : "value" = name
      · subst isValue
        rfl
      · simp [Argument.lastSource?, labelled, relabelled, isId, isValue]
  have permuted : labelled.Perm labelled.reverse := (List.reverse_perm labelled).symm
  have distinct : (labelled.map Argument.name).Nodup := by
    decide
  exact ⟨rfl, found, (starts bareWithId 1 ⟨"create", labelled⟩ _ rfl found).1,
    by decide +kernel, sameSources, ofSources "create" _ _ sameSources bareWithId 1 0,
    permuted, distinct, ofPerm "create" _ _ permuted distinct bareWithId 1 0⟩

end Machine

end FunctionScript
