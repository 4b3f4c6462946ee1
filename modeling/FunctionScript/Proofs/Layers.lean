import FunctionScript.Proofs.Footprint
import FunctionScript.Proofs.ScriptGrammar

namespace FunctionScript

/-!
# Scripts one after another

Scripts that run on one machine lie in layers over its root: under each name the
root has the function of the latest script that has one, and no evaluation in
between, however it ended, changes that. The order in which the tables of a script
are gone through does not matter.
-/

/-- The entries of a table laid over another one give their union, whatever their order. -/
theorem Table.foldl_insert_of_perm
    {entries : List (String × α)}
    {overlay : Table α}
    (listed : entries.Perm overlay.toList)
    (table : Table α) :
    entries.foldl (fun table entry => table.insert entry.1 entry.2) table =
      table ∪ overlay := by
  have reversed : entries.reverse.Perm overlay.toList :=
    entries.reverse_perm.trans listed
  have distinct : (entries.reverse.map Prod.fst).Nodup :=
    (reversed.map Prod.fst).nodup_iff.mpr overlay.nodup_names
  have sameLookup (name : String) : entries.reverse.lookup name = overlay[name]? := by
    ext value
    rw [lookup_eq_some_iff_mem distinct, reversed.mem_iff,
      Std.ExtTreeMap.mem_toList_iff_getElem?_eq_some]
  apply Std.ExtTreeMap.ext_getElem?
  intro name
  rw [getElem?_foldl_insert, sameLookup, Std.ExtTreeMap.getElem?_union]

namespace Script

/-- The functions and the variables of a script, each of them listed in some order. -/
structure Listing
    (script : Script) where
  functions : List (String × Function)
  values : List (String × String)
  functionsListed : functions.Perm script.functions.toList
  valuesListed : values.Perm script.variables.toList

/-- The entries of both tables, the last name first. -/
def Listing.descending
    (script : Script) :
    script.Listing where
  functions := script.functions.toList.reverse
  values := script.variables.toList.reverse
  functionsListed := List.reverse_perm _
  valuesListed := List.reverse_perm _

/-- The script has a function of its own under the name, in place of a builtin one. -/
def Redefines
    (script : Script)
    (name : String) :
    Prop :=
  ∃ body, script.functions[name]? = some (.composite body)

/-- A script has every builtin function that it does not redefine. -/
theorem builtin_of_not_redefines
    {document : Table Json}
    {script : Script}
    {builtin : Builtin}
    (accepted : ofDeclarations document = .ok script)
    (kept : ¬script.Redefines builtin.name) :
    script.functions[builtin.name]? = some (.builtin builtin) := by
  have declared := isDeclaredBy_of_ofDeclarations accepted
  apply declared.builtin builtin
  intro entries isArray
  obtain ⟨commands, bound, _⟩ := declared.composite builtin.name entries isArray
  exact kept ⟨_, bound⟩

/-- What the last of several scripts that has a function of that name has there. -/
def lastFunction?
    (scripts : List Script)
    (name : String) :
    Option Function :=
  scripts.reverse.findSome? fun script => script.functions[name]?

@[simp] theorem lastFunction?_append_singleton
    (earlier : List Script)
    (script : Script)
    (name : String) :
    lastFunction? (earlier ++ [script]) name =
      script.functions[name]?.or (lastFunction? earlier name) := by
  rw [lastFunction?, List.reverse_append, List.findSome?_append,
    List.reverse_singleton, List.findSome?_singleton, lastFunction?]

end Script

namespace Environment

/-- The functions and then the variables of a script, bound one by one in the root. -/
def bindListed
    {script : Script}
    (environment : Environment)
    (listing : script.Listing) :
    Environment :=
  let withFunctions :=
    listing.functions.foldl
      (fun environment entry => environment.defineFunction root entry.1 entry.2)
      environment
  withFunctions.bindAll root listing.values

theorem foldl_defineFunction
    (environment : Environment)
    (frame : Nat)
    (entries : List (String × Function)) :
    entries.foldl
        (fun environment entry => environment.defineFunction frame entry.1 entry.2)
        environment =
      environment.modifyFrame frame fun found =>
        { found with
          functions :=
            entries.foldl (fun table entry => table.insert entry.1 entry.2)
              found.functions } := by
  induction entries generalizing environment with
  | nil => exact (modifyFrame_id environment frame).symm
  | cons entry rest inductionHypothesis =>
      rw [List.foldl_cons, inductionHypothesis, defineFunction,
        modifyFrame_modifyFrame]
      rfl

/-- Binding a script's functions and variables one by one is laying its tables over the root. -/
theorem bindListed_eq_overlayRoot
    {script : Script}
    (environment : Environment)
    (listing : script.Listing) :
    environment.bindListed listing =
      environment.overlayRoot script.functions script.variables := by
  rw [bindListed, foldl_defineFunction, bindAll_eq_changeVariables, changeVariables,
    modifyFrame_modifyFrame]
  simp only [Table.foldl_insert_of_perm listing.functionsListed,
    Table.foldl_insert_of_perm listing.valuesListed]
  rfl

/-- The root binds these functions, and no other frame binds any. -/
structure RootBinds
    (functions : String → Option Function)
    (environment : Environment) :
    Prop where
  root : ∀ name, (environment.functions root)[name]? = functions name
  others : ∀ place, place ≠ Environment.root → environment.functions place = ∅

namespace RootBinds

variable
  {functions : String → Option Function}
  {environment : Environment}

theorem initial :
    RootBinds (fun _ => none) Environment.initial where
  root := fun _ => rfl
  others := by
    intro place notRoot
    exact functions_of_depth_le (Nat.pos_of_ne_zero notRoot)

/-- Functions stay where they are in an environment of the same shape. -/
theorem of_sameShape
    {other : Environment}
    (binds : RootBinds functions environment)
    (same : SameShape other environment) :
    RootBinds functions other where
  root := by simpa only [same.functions] using binds.root
  others := by simpa only [same.functions] using binds.others

theorem extend
    (binds : RootBinds functions environment)
    (caller : Nat)
    (values : List (String × String)) :
    RootBinds functions (environment.extend caller values) where
  root := by simpa only [functions_extend] using binds.root
  others := by simpa only [functions_extend] using binds.others

/-- In a table that is laid over the root, the overlay comes first. -/
theorem overlayRoot
    (binds : RootBinds functions environment)
    (live : environment.isLive Environment.root)
    (overlay : Table Function)
    (values : Table String) :
    RootBinds (fun name => overlay[name]?.or (functions name))
      (environment.overlayRoot overlay values) where
  root := by
    intro name
    rw [functions_overlayRoot _ _ _ live, if_pos rfl, Std.ExtTreeMap.getElem?_union,
      binds.root]
  others := by
    intro place notRoot
    rw [functions_overlayRoot _ _ _ live, if_neg notRoot]
    exact binds.others place notRoot

/-- From every live frame, looking a name up finds what the root binds to it. -/
theorem function?_chain
    (binds : RootBinds functions environment)
    (wellFormed : environment.WellFormed)
    {frame : Nat}
    (live : environment.isLive frame)
    (name : String) :
    environment.function? .chain frame name = functions name := by
  have last := wellFormed.getLast?_chain live
  have noInner :
      (environment.innerChain frame).findSome?
          (fun place => (environment.functions place)[name]?) =
        none := by
    apply List.findSome?_eq_none_iff.mpr
    intro place inner
    have notRoot : place ≠ Environment.root := by
      rintro rfl
      exact getLast?_notMem_innerChain last inner
    rw [binds.others place notRoot]
    rfl
  have split : environment.chain frame = environment.innerChain frame ++ [Environment.root] :=
    (List.dropLast_append_getLast? Environment.root last).symm
  rw [function?, Reach.frames, split, List.findSome?_append, noInner, Option.none_or,
    List.findSome?_singleton, binds.root]

end RootBinds

end Environment

namespace Machine

/-- The machine with a script laid over the root frame entry by entry. -/
def mergeListed
    {script : Script}
    (machine : Machine)
    (listing : script.Listing) :
    Machine :=
  let logged :=
    machine.record (.merging script.functions.size script.variables.size)
  { logged with environment := machine.environment.bindListed listing }

/-- Lay a script over the root frame entry by entry, and run its `init` there. -/
def runListed
    {script : Script}
    (fuel : Nat)
    (listing : script.Listing)
    (machine : Machine) :
    Run :=
  let merged := machine.mergeListed listing
  match merged.environment.function? .own Environment.root initName with
  | some function => merged.call fuel function Environment.root
  | none => .ok (.error .missingInit, merged)

/-- The order in which a script is laid over the root does not matter. -/
theorem mergeListed_eq_merge
    {script : Script}
    (machine : Machine)
    (listing : script.Listing) :
    machine.mergeListed listing = machine.merge script := by
  rw [mergeListed, merge, Environment.bindListed_eq_overlayRoot]

theorem runListed_eq_runScript
    {script : Script}
    (fuel : Nat)
    (listing : script.Listing)
    (machine : Machine) :
    machine.runListed fuel listing = machine.runScript fuel script := by
  rw [runListed, mergeListed_eq_merge]
  rfl

/--
The scripts ran one after another, each laid over the root in some order and run to
its end, whether that was a failure or not.
-/
inductive RanInTurn
    (start : Machine) :
    List Script →
    Machine →
    Prop where
  | none : RanInTurn start [] start
  | next
      {earlier : List Script}
      {script : Script}
      {before after : Machine}
      {outcome : Outcome}
      (ran : RanInTurn start earlier before)
      (listing : script.Listing)
      (finishes :
        Finishes (fun fuel => before.runListed fuel listing) outcome after) :
      RanInTurn start (earlier ++ [script]) after

/-- The root is sound and binds these functions, and no other frame binds any. -/
def RootHolds
    (functions : String → Option Function)
    (machine : Machine) :
    Prop :=
  Sound machine.environment Environment.root ∧
    Environment.RootBinds functions machine.environment

namespace RootHolds

variable
  {functions : String → Option Function}
  {machine after : Machine}
  {script : Script}

theorem initial
    (sink : Sink) :
    RootHolds (fun _ => none) (.initial sink) :=
  ⟨⟨.initial, rfl⟩, .initial⟩

theorem of_sameShape
    (holds : RootHolds functions machine)
    (same : Environment.SameShape after.environment machine.environment) :
    RootHolds functions after := by
  obtain ⟨⟨wellFormed, live⟩, binds⟩ := holds
  refine ⟨⟨wellFormed.of_sameShape same, ?_⟩, binds.of_sameShape same⟩
  rwa [same.isLive]

/-- A script that is laid over the root has its functions there first. -/
theorem merge
    (holds : RootHolds functions machine)
    (script : Script) :
    RootHolds (fun name => script.functions[name]?.or (functions name))
      (machine.merge script) := by
  obtain ⟨⟨wellFormed, live⟩, binds⟩ := holds
  refine ⟨⟨wellFormed.overlayRoot _ _, ?_⟩, binds.overlayRoot live _ _⟩
  rwa [Environment.isLive_iff, depth_merge, ← Environment.isLive_iff]

end RootHolds

/-- After scripts that ran in turn, the root binds under each name what the last of them has. -/
theorem RanInTurn.rootHolds
    {sink : Sink}
    {scripts : List Script}
    {after : Machine}
    (ran : RanInTurn (.initial sink) scripts after) :
    RootHolds (Script.lastFunction? scripts) after := by
  induction ran with
  | none => exact .initial sink
  | @next earlier script before after outcome _ listing finishes inductionHypothesis =>
      obtain ⟨fuel, finished⟩ := finishes
      simp only [runListed_eq_runScript] at finished
      have merged := inductionHypothesis.merge script
      simp only [← Script.lastFunction?_append_singleton] at merged
      exact merged.of_sameShape (sameShape_runScript finished)

/--
Throughout the run of `init` in the root, looking the name up from any live frame
finds the function, or finds none.
-/
def FoundThroughout
    (init : Composite)
    (machine : Machine)
    (name : String)
    (function? : Option Function) :
    Prop :=
  ∀ environment place frame,
    WorksFrom (.composite init) Environment.root machine environment place →
      environment.isLive frame →
        environment.function? .chain frame name = function?

theorem isInvariant_rootBinds
    (functions : String → Option Function) :
    IsInvariant fun environment _ => Environment.RootBinds functions environment where
  changed := fun changed binds => binds.of_sameShape changed.toSameShape
  entered := fun _ _ _ _ binds => binds.extend _ _

theorem RootHolds.foundThroughout
    {functions : String → Option Function}
    {machine : Machine}
    (holds : RootHolds functions machine)
    (init : Composite)
    (name : String) :
    FoundThroughout init machine name (functions name) := by
  obtain ⟨sound, binds⟩ := holds
  intro environment place frame works live
  have bindsThere :=
    works.invariant_holds (isInvariant_rootBinds functions) binds
  exact bindsThere.function?_chain (sound.worksFrom works).1 live name

/--
How a script runs on top of earlier ones, from the machine that these left: its
variables stand over those that were left, its own `init` runs, and as long as that
runs, every name means what the latest script that has it says.
-/
structure RunsOnTop
    (earlier : List Script)
    (before : Machine)
    (script : Script)
    (init : Composite) :
    Prop where
  anyOrder : ∀ listing : script.Listing, before.mergeListed listing = before.merge script
  ownInit : script.functions[initName]? = some (.composite init)
  runsOwnInit :
    ∀ (listing : script.Listing) (fuel : Nat),
      before.runListed fuel listing =
        (before.merge script).call fuel (.composite init) Environment.root
  startingVariables :
    ∀ name : String,
      ((before.merge script).environment.variables Environment.root)[name]? =
        script.variables[name]?.or
          (before.environment.variables Environment.root)[name]?
  everyName :
    ∀ name : String,
      FoundThroughout init (before.merge script) name
        (Script.lastFunction? (earlier ++ [script]) name)
  builtins :
    ∀ builtin : Builtin,
      ¬script.Redefines builtin.name →
        FoundThroughout init (before.merge script) builtin.name
          (some (.builtin builtin))
  initThroughout :
    FoundThroughout init (before.merge script) initName (some (.composite init))

theorem RanInTurn.runsOnTop
    {sink : Sink}
    {earlier : List Script}
    {before : Machine}
    {script : Script}
    {source : ByteArray}
    (ran : RanInTurn (.initial sink) earlier before)
    (accepted : Script.ofSource source = .ok script) :
    ∃ init, RunsOnTop earlier before script init := by
  obtain ⟨members, _, declares⟩ := Script.exists_members_of_ofSource accepted
  obtain ⟨commands, ownInit⟩ := Script.exists_init_of_ofDeclarations declares
  have holds := ran.rootHolds
  have live := holds.1.2
  have everyName (name : String) :
      FoundThroughout ⟨initName, commands⟩ (before.merge script) name
        (script.functions[name]?.or (Script.lastFunction? earlier name)) :=
    (holds.merge script).foundThroughout _ name
  have found :
      (before.merge script).environment.function? .own Environment.root initName =
        some (.composite ⟨initName, commands⟩) := by
    have bound := (holds.merge script).2.root initName
    simpa [Environment.function?, Environment.Reach.frames, ownInit] using bound
  refine ⟨⟨initName, commands⟩, before.mergeListed_eq_merge, ownInit, ?_, ?_, ?_, ?_, ?_⟩
  · intro listing fuel
    simp only [runListed_eq_runScript, runScript, found]
  · intro name
    simp only [merge, Environment.variables_overlayRoot _ _ _ live, if_pos,
      Std.ExtTreeMap.getElem?_union]
  · intro name
    rw [Script.lastFunction?_append_singleton]
    exact everyName name
  · intro builtin kept
    have bound := Script.builtin_of_not_redefines declares kept
    simpa [bound] using everyName builtin.name
  · simpa [ownInit] using everyName initName

/--
Scripts that run in turn on a fresh machine, however each of them ends, leave in the
root under each name the function of the last script that has one. Each parsed
script among them runs on top of those before it.
-/
theorem scripts_layered
    (sink : Sink) :
    (∀ scripts after,
      RanInTurn (.initial sink) scripts after →
        ∀ name,
          (after.environment.functions Environment.root)[name]? =
            Script.lastFunction? scripts name) ∧
    ∀ earlier before script,
      RanInTurn (.initial sink) earlier before →
        (∃ source, Script.ofSource source = .ok script) →
          ∃ init, RunsOnTop earlier before script init := by
  constructor
  · intro scripts after ran
    exact ran.rootHolds.2.root
  · intro earlier before script ran isParsed
    obtain ⟨source, accepted⟩ := isParsed
    exact ran.runsOnTop accepted

/-- A script that puts a function of its own in place of `print`, calls it, and fails. -/
def hidePrint : ByteArray :=
  "\x7b\"x\": 1, \"print\": [], \"init\": [\x7b\"cmd\": \"print\"\x7d, \x7b\"cmd\": \"delete\", \"id\": \"y\"\x7d]\x7d".toUTF8

/-- A script that prints a variable. -/
def usePrint : ByteArray :=
  "\x7b\"x\": 5, \"init\": [\x7b\"cmd\": \"print\", \"value\": \"#x\"\x7d]\x7d".toUTF8

/-- The later script finds the builtin `print` again, though the earlier one failed half way. -/
theorem usePrint_layered :
    ∃ first second before after init outcome,
      Script.ofSource hidePrint = .ok first ∧
        Script.ofSource usePrint = .ok second ∧
        first.Redefines "print" ∧
        Finishes
          (fun fuel => (initial .unlimited).runListed fuel (.descending first))
          outcome before ∧
        outcome ≠ .ok () ∧
        Finishes (fun fuel => before.runListed fuel (.descending second)) (.ok ()) after ∧
        RunsOnTop [first] before second init ∧
        FoundThroughout init (before.merge second) "print" (some (.builtin .print)) ∧
        (after.environment.functions Environment.root)["print"]? =
          some (.builtin .print) := by
  have hides :
      (Script.ofSource hidePrint).toOption.map (fun script => script.functions["print"]?) =
        some (some (.composite ⟨"print", []⟩)) := by
    decide +kernel
  have keeps :
      (Script.ofSource usePrint).toOption.map (fun script => script.functions["print"]?) =
        some (some (.builtin .print)) := by
    decide +kernel
  obtain ⟨first, firstAccepted, ownPrint⟩ := exists_eq_ok_of_observed hides
  obtain ⟨second, secondAccepted, builtinPrint⟩ := exists_eq_ok_of_observed keeps
  have bothEnd :
      (Script.ofSource hidePrint).toOption.map
          (fun first =>
            ((initial Sink.unlimited).runScript 2 first).toOption.map fun ended =>
              (ended.1.isOk,
                (Script.ofSource usePrint).toOption.map fun second =>
                  (ended.2.runScript 2 second).toOption.map fun ended => ended.1.isOk)) =
        some (some (false, some (some true))) := by
    decide +kernel
  simp only [firstAccepted, secondAccepted, Except.toOption, Option.map_some,
    Option.some.injEq] at bothEnd
  obtain ⟨outcome, before, firstRan, observed⟩ := exists_of_observed bothEnd
  obtain ⟨isNotOk, secondEnds⟩ : _ ∧ _ := by
    simpa only [Prod.mk.injEq, Option.some.injEq] using observed
  obtain ⟨secondOutcome, after, secondRan, isOk⟩ := exists_of_observed secondEnds
  obtain rfl := eq_ok_of_isOk isOk
  have firstFinishes :
      Finishes (fun fuel => (initial .unlimited).runListed fuel (.descending first))
        outcome before :=
    ⟨2, (runListed_eq_runScript _ _ _).trans firstRan⟩
  have secondFinishes :
      Finishes (fun fuel => before.runListed fuel (.descending second)) (.ok ()) after :=
    ⟨2, (runListed_eq_runScript _ _ _).trans secondRan⟩
  have ranFirst : RanInTurn (.initial .unlimited) [first] before :=
    .next .none (.descending first) firstFinishes
  have ranBoth : RanInTurn (.initial .unlimited) [first, second] after :=
    .next ranFirst (.descending second) secondFinishes
  obtain ⟨inRoot, onTop⟩ := scripts_layered .unlimited
  obtain ⟨init, runsOnTop⟩ := onTop [first] before second ranFirst ⟨_, secondAccepted⟩
  have notRedefined : ¬second.Redefines (Builtin.name .print) := by
    rintro ⟨body, bound⟩
    cases builtinPrint.symm.trans bound
  refine ⟨first, second, before, after, init, outcome, firstAccepted, secondAccepted,
    ⟨_, ownPrint⟩, firstFinishes, ?_, secondFinishes, runsOnTop,
    runsOnTop.builtins .print notRedefined, ?_⟩
  · rintro rfl
    cases isNotOk
  · rw [inRoot [first, second] after ranBoth, ← builtinPrint]
    simp [Script.lastFunction?, builtinPrint]

end Machine

end FunctionScript
