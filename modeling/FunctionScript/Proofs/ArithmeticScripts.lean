import FunctionScript.Json.Equality
import FunctionScript.Proofs.ArgumentBinding
import FunctionScript.Proofs.ScriptGrammar
import FunctionScript.Proofs.ShortestText
import FunctionScript.Proofs.Termination
import FunctionScript.Proofs.Balance

namespace FunctionScript

/-!
# Scripts of arithmetic

If `init` has only commands of arithmetic, each of which takes its operands from
numbers and from variables that are known by then, the script succeeds. What carries
a run of any length is that every known variable is bound in the root to a numeric
text: a command reads numeric texts, and stores one.
-/

section Grammar

/-- A number, a text that reads as one, or a reference to a known variable. -/
inductive Json.IsOperand
    (known : String → Prop) :
    Json →
    Prop where
  | number (found : Json.Number) :
      IsOperand known (.number found)
  | text
      {text : String}
      (numeric : (Numeral.read? text).isSome) :
      IsOperand known (.string text)
  | param
      {name : String}
      (isKnown : known name) :
      IsOperand known (.string ("$" ++ name))
  | ref
      {name : String}
      (isKnown : known name) :
      IsOperand known (.string ("#" ++ name))

/-- The members of a command that assigns the result of an operation to a variable. -/
structure Command.IsArithmetic
    (known : String → Prop)
    (assigned : String)
    (members : List (String × Json)) :
    Prop where
  target :
    ∃ written,
      ∃ operation : Operation,
        members.lookup targetKey = some (.string written) ∧
          IsTarget written operation.name
  id :
    ∃ value,
      members.lookup Attribute.id.name = some value ∧
        value.HasText assigned ∧
        (Argument.Source.literal assigned).SpelledBy assigned
  noArgument : ∀ member ∈ members, member.1 ≠ targetKey → assigned ≠ member.1
  operand1 :
    ∃ value,
      members.lookup Attribute.operand1.name = some value ∧ value.IsOperand known
  operand2 :
    ∃ value,
      members.lookup Attribute.operand2.name = some value ∧ value.IsOperand known

/--
The items assign the variables one after another; what each of them may use is what
was known before and what those before it assigned.
-/
inductive AssignInTurn
    (assigns : (String → Prop) → String → α → Prop) :
    (String → Prop) →
    List α →
    List String →
    Prop where
  | nil (known : String → Prop) :
      AssignInTurn assigns known [] []
  | cons
      {known : String → Prop}
      {assigned : String}
      {others : List String}
      {item : α}
      {items : List α}
      (first : assigns known assigned item)
      (rest :
        AssignInTurn assigns (fun name => known name ∨ name = assigned) items others) :
      AssignInTurn assigns known (item :: items) (assigned :: others)

/-- The entry of a function's body is a command of arithmetic. -/
def Json.IsArithmetic
    (known : String → Prop)
    (assigned : String)
    (entry : Json) :
    Prop :=
  ∃ members, entry = .object members ∧ Command.IsArithmetic known assigned members

end Grammar

section Commands

theorem Decimal.readLiteral?_of_sigil
    (rest : List Char) :
    readLiteral? (Argument.paramSigil :: rest) = none ∧
      readLiteral? (Argument.refSigil :: rest) = none :=
  ⟨rfl, rfl⟩

/-- A numeric text is the value of an argument as it stands. -/
theorem Argument.Source.ofText_of_numeric
    {text : String}
    (numeric : (Numeral.read? text).isSome) :
    ofText text = .literal text := by
  rw [Numeral.read?_eq] at numeric
  rw [ofText]
  cases shape : text.toList with
  | nil => rfl
  | cons first rest =>
      obtain ⟨noParam, noRef⟩ := Decimal.readLiteral?_of_sigil rest
      have isParam : first ≠ paramSigil := by
        rintro rfl
        simp [shape, noParam] at numeric
      have isRef : first ≠ refSigil := by
        rintro rfl
        simp [shape, noRef] at numeric
      simp [isParam, isRef]

/-- A numeric text, or a reference to a known variable. -/
inductive Argument.Source.IsOperand
    (known : String → Prop) :
    Source →
    Prop where
  | literal
      {text : String}
      (numeric : (Numeral.read? text).isSome) :
      IsOperand known (.literal text)
  | param
      {name : String}
      (isKnown : known name) :
      IsOperand known (.param name)
  | ref
      {name : String}
      (isKnown : known name) :
      IsOperand known (.ref name)

/-- A command that assigns the result of an operation to a variable. -/
structure Command.Computes
    (known : String → Prop)
    (assigned : String)
    (command : Command) :
    Prop where
  target : ∃ operation : Operation, command.target = operation.name
  distinct : (command.arguments.map Argument.name).Nodup
  id : ⟨Attribute.id.name, .literal assigned⟩ ∈ command.arguments
  noArgument : ∀ argument ∈ command.arguments, assigned ≠ argument.name
  operand1 :
    ∃ source,
      ⟨Attribute.operand1.name, source⟩ ∈ command.arguments ∧ source.IsOperand known
  operand2 :
    ∃ source,
      ⟨Attribute.operand2.name, source⟩ ∈ command.arguments ∧ source.IsOperand known

theorem Json.HasText.eq
    {value : Json}
    {text other : String}
    (hasText : value.HasText text)
    (hasOther : value.HasText other) :
    text = other := by
  rw [← Json.scalarText?_eq_some_iff] at hasText hasOther
  exact Option.some.inj (hasText.symm.trans hasOther)

/-- The source that an operand spells is an operand. -/
theorem Json.IsOperand.source
    {known : String → Prop}
    {value : Json}
    {text : String}
    {source : Argument.Source}
    (isOperand : value.IsOperand known)
    (hasText : value.HasText text)
    (spelled : source.SpelledBy text) :
    source.IsOperand known := by
  have unique
      {other : Argument.Source}
      (otherSpelled : other.SpelledBy text) :
      source = other := by
    rw [Argument.Source.spelledBy_iff] at spelled otherSpelled
    rw [spelled, otherSpelled]
  cases isOperand with
  | number found =>
      cases hasText
      have numeric := Numeral.isSome_read?_shortest found.toBinary64
      rw [Argument.Source.spelledBy_iff.mp spelled,
        Argument.Source.ofText_of_numeric numeric]
      exact .literal numeric
  | text numeric =>
      cases hasText
      rw [Argument.Source.spelledBy_iff.mp spelled,
        Argument.Source.ofText_of_numeric numeric]
      exact .literal numeric
  | @param name isKnown =>
      cases hasText
      rw [unique (.param name)]
      exact .param isKnown
  | @ref name isKnown =>
      cases hasText
      rw [unique (.ref name)]
      exact .ref isKnown

section Declared

variable
  {command : Command}
  {members : List (String × Json)}
  {known : String → Prop}
  {assigned : String}

/-- Each member but the target's declares an argument. -/
theorem Command.DeclaredBy.exists_argument
    (declared : command.DeclaredBy members)
    {name : String}
    {value : Json}
    (member : (name, value) ∈ members)
    (notTarget : name ≠ targetKey) :
    ∃ source text,
      ⟨name, source⟩ ∈ command.arguments ∧
        value.HasText text ∧
        source.SpelledBy text := by
  have isOther :
      (name, value) ∈ members.filter fun member => member.1 != targetKey :=
    List.mem_filter.mpr ⟨member, by simpa using notTarget⟩
  obtain ⟨argument, inArguments, sameName, text, hasText, spelled⟩ :=
    exists_mem_of_forall₂ declared.arguments.flip isOther
  obtain ⟨listed, source⟩ := argument
  cases sameName
  exact ⟨source, text, inArguments, hasText, spelled⟩

/-- Members of a command of arithmetic declare one. -/
theorem Command.IsArithmetic.computes
    (isArithmetic : IsArithmetic known assigned members)
    (ascending : members.Pairwise fun first second => first.1 < second.1)
    (declared : command.DeclaredBy members) :
    command.Computes known assigned := by
  have memberOf
      {name : String}
      {value : Json}
      (found : members.lookup name = some value) :
      (name, value) ∈ members := by
    have distinct : (members.map Prod.fst).Nodup := by
      rw [List.Nodup, List.pairwise_map]
      exact ascending.imp fun before => String.ne_of_lt before
    exact (Table.lookup_eq_some_iff_mem distinct).mp found
  have operandOf
      {name : String}
      (notTarget : name ≠ targetKey)
      (isOperand : ∃ value, members.lookup name = some value ∧ value.IsOperand known) :
      ∃ source, ⟨name, source⟩ ∈ command.arguments ∧ source.IsOperand known := by
    obtain ⟨value, found, isOperand⟩ := isOperand
    obtain ⟨source, text, inArguments, hasText, spelled⟩ :=
      declared.exists_argument (memberOf found) notTarget
    exact ⟨source, inArguments, isOperand.source hasText spelled⟩
  refine
    { target := ?_
      distinct := ?_
      id := ?_
      noArgument := ?_
      operand1 := operandOf (by decide) isArithmetic.operand1
      operand2 := operandOf (by decide) isArithmetic.operand2 }
  · obtain ⟨written, operation, isWritten, isTarget⟩ := isArithmetic.target
    obtain ⟨other, isOther, otherTarget⟩ := declared.target
    cases isWritten.symm.trans isOther
    rw [isTarget_iff] at isTarget otherTarget
    exact ⟨operation, otherTarget.trans isTarget.symm⟩
  · rw [List.Nodup, List.pairwise_map]
    exact (declared.ascending ascending).imp fun before => String.ne_of_lt before
  · obtain ⟨value, found, hasText, isLiteral⟩ := isArithmetic.id
    obtain ⟨source, text, inArguments, hasOther, spelled⟩ :=
      declared.exists_argument (memberOf found) (by decide)
    obtain rfl := hasText.eq hasOther
    rw [Argument.Source.spelledBy_iff] at spelled isLiteral
    rwa [spelled, ← isLiteral] at inArguments
  · intro argument inArguments
    obtain ⟨member, isOther, sameName, _⟩ :=
      exists_mem_of_forall₂ declared.arguments inArguments
    obtain ⟨inMembers, notTarget⟩ := List.mem_filter.mp isOther
    rw [sameName]
    exact isArithmetic.noArgument member inMembers (by simpa using notTarget)

end Declared

end Commands

/-- Every known variable is bound to a numeric text. -/
def NumericIn
    (known : String → Prop)
    (values : Table String) :
    Prop :=
  ∀ name,
    known name →
      ∃ text, values[name]? = some text ∧ (Numeral.read? text).isSome

/-- Assigning a numeric text to a variable makes it known. -/
theorem NumericIn.insert
    {known : String → Prop}
    {values : Table String}
    (numeric : NumericIn known values)
    (assigned : String)
    {text : String}
    (isNumeric : (Numeral.read? text).isSome) :
    NumericIn (fun name => known name ∨ name = assigned)
      (values.insert assigned text) := by
  intro name isKnown
  rw [Table.getElem?_insert_eq]
  by_cases same : assigned = name
  · exact ⟨text, if_pos same, isNumeric⟩
  · rw [if_neg same]
    rcases isKnown with before | rfl
    · exact numeric name before
    · exact absurd rfl same

section Steps

variable
  {known : String → Prop}
  {values : Table String}
  {command : Command}
  {assigned : String}

/-- In a single scope, operands have numeric values. -/
theorem Scopes.resolve_operand
    (numeric : NumericIn known values)
    {source : Argument.Source}
    (isOperand : source.IsOperand known) :
    (Numeral.read? (Scopes.resolve [values] source)).isSome := by
  cases isOperand with
  | literal isNumeric => exact isNumeric
  | param isKnown | ref isKnown =>
      obtain ⟨text, bound, isNumeric⟩ := numeric _ isKnown
      simpa [Scopes.resolve, Scopes.value?, bound] using isNumeric

/-- What the nearer of two scopes does not bind is assigned in the other one. -/
theorem Scopes.assign_outer
    {nearer : Table String}
    (notNearer : nearer[assigned]? = none)
    (text : String) :
    Scopes.assign [nearer, values] assigned text =
      [nearer, values.insert assigned text] := by
  have notContained : nearer.contains assigned = false := by
    rw [Std.ExtTreeMap.contains_eq_isSome_getElem?, notNearer]
    rfl
  simp [Scopes.assign_cons, notContained]

/-- A command of arithmetic succeeds and does nothing but bind its variable to a numeric text. -/
theorem View.dispatch_of_computes
    {functions : String → Option Function}
    (builtins :
      ∀ operation : Operation,
        functions operation.name = some (.builtin (.arithmetic operation)))
    (computes : command.Computes known assigned)
    (numeric : NumericIn known values)
    (fuel : Nat)
    (sink : Sink) :
    ∃ text,
      (Numeral.read? text).isSome ∧
        View.dispatch functions (View.call functions fuel) command ⟨[values], sink⟩ =
          .ok (.ok (), ⟨[values.insert assigned text], sink⟩) := by
  obtain ⟨operation, isTarget⟩ := computes.target
  obtain ⟨first, firstMember, firstOperand⟩ := computes.operand1
  obtain ⟨second, secondMember, secondOperand⟩ := computes.operand2
  obtain ⟨left, isLeft⟩ :=
    Option.isSome_iff_exists.mp (Scopes.resolve_operand numeric firstOperand)
  obtain ⟨right, isRight⟩ :=
    Option.isSome_iff_exists.mp (Scopes.resolve_operand numeric secondOperand)
  have bound
      {argument : Argument}
      (member : argument ∈ command.arguments) :
      (Table.ofEntries (Scopes.argumentValues [values] command))[argument.name]? =
        some (Scopes.resolve [values] argument.source) := by
    rw [Scopes.getElem?_argumentValues,
      (Argument.lastSource?_eq_some_iff computes.distinct).mpr member, Option.map_some]
  have boundId :
      (Table.ofEntries (Scopes.argumentValues [values] command))[Attribute.id.name]? =
        some assigned :=
    bound computes.id
  have effect :=
    Builtin.effectOf_eq_ok_iff.mpr
      (@Builtin.Asks.arithmetic _ operation _ _ _ _ _ boundId
        (bound firstMember) (bound secondMember) isLeft isRight)
  have notNearer :
      (Table.ofEntries (Scopes.argumentValues [values] command))[assigned]? = none := by
    have noSource : Argument.lastSource? command.arguments assigned = none :=
      Argument.lastSource?_eq_none_iff.mpr fun argument member =>
        (computes.noArgument argument member).symm
    rw [Scopes.getElem?_argumentValues, noSource, Option.map_none]
  refine ⟨Numeral.stored (operation.apply left right),
    Numeral.isSome_read?_stored _, ?_⟩
  simp only [View.dispatch, isTarget, builtins, View.call_builtin, View.execute,
    View.enter, List.headD_cons, effect, View.perform,
    Scopes.assign_outer notNearer, Except.map, View.leave, List.tail_cons]

/-- Commands of arithmetic succeed, and leave every variable that is known or assigned numeric. -/
theorem View.inOrder_of_computes
    {functions : String → Option Function}
    (builtins :
      ∀ operation : Operation,
        functions operation.name = some (.builtin (.arithmetic operation)))
    {commands : List Command}
    {ids : List String}
    (inTurn : AssignInTurn Command.Computes known commands ids)
    (numeric : NumericIn known values)
    (fuel : Nat)
    (sink : Sink) :
    ∃ after,
      View.inOrder (View.dispatch functions (View.call functions fuel)) commands
          ⟨[values], sink⟩ =
        .ok (.ok (), ⟨[after], sink⟩) ∧
      NumericIn (fun name => known name ∨ name ∈ ids) after := by
  induction inTurn generalizing values with
  | nil known => exact ⟨values, rfl, by simpa using numeric⟩
  | @cons known assigned others command commands first _ inductionHypothesis =>
      obtain ⟨text, isNumeric, dispatched⟩ :=
        View.dispatch_of_computes builtins first numeric fuel sink
      obtain ⟨after, ran, allNumeric⟩ :=
        inductionHypothesis (numeric.insert assigned isNumeric)
      refine ⟨after, by simp only [View.inOrder, dispatched, ran], ?_⟩
      simpa only [List.mem_cons, or_assoc] using allNumeric

end Steps

section Scripts

/-- Entries that assign variables in turn declare commands that do. -/
theorem AssignInTurn.computes
    {known : String → Prop}
    {entries : List Json}
    {ids : List String}
    {commands : List Command}
    (inTurn : AssignInTurn Json.IsArithmetic known entries ids)
    (ascending :
      ∀ members,
        Json.object members ∈ entries →
          members.Pairwise fun first second => first.1 < second.1)
    (declared :
      List.Forall₂
        (fun (entry : Json) (command : Command) =>
          ∃ members, entry = .object members ∧ command.DeclaredBy members)
        entries commands) :
    AssignInTurn Command.Computes known commands ids := by
  induction inTurn generalizing commands with
  | nil known =>
      cases declared
      exact .nil known
  | cons first _ inductionHypothesis =>
      cases declared with
      | cons isDeclared restDeclared =>
          obtain ⟨members, isObject, isArithmetic⟩ := first
          obtain ⟨others, isOther, commandDeclared⟩ := isDeclared
          obtain rfl : members = others := Json.object.inj (isObject.symm.trans isOther)
          have membersAscending := ascending members (by simp [isObject])
          exact .cons (isArithmetic.computes membersAscending commandDeclared)
            (inductionHypothesis
              (fun members member => ascending members (List.mem_cons_of_mem _ member))
              restDeclared)

/-- The variables of a script are bound to numeric texts. -/
theorem Script.numericIn_variables
    {document : Table Json}
    {script : Script}
    (accepted : ofDeclarations document = .ok script) :
    NumericIn (fun name => name ∈ script.variables) script.variables := by
  intro name isVariable
  obtain ⟨text, bound⟩ :=
    Option.isSome_iff_exists.mp
      (Std.ExtTreeMap.mem_iff_isSome_getElem?.mp isVariable)
  refine ⟨text, bound, ?_⟩
  rcases ((isDeclaredBy_of_ofDeclarations accepted).variables name text).mp bound with
      ⟨found, _, rfl⟩ | isString
  · exact Numeral.isSome_read?_shortest found.toBinary64
  · exact (exists_ofDeclarations_iff.mp ⟨script, accepted⟩).texts name text isString

namespace Machine

variable
  {machine : Machine}
  {script : Script}

/-- A run that is seen to end has ended. -/
theorem Run.exists_of_seenFrom_eq_ok
    {frame : Nat}
    {run : Run}
    {outcome : Outcome}
    {view : View}
    (seen : Run.seenFrom frame run = .ok (outcome, view)) :
    ∃ after, run = .ok (outcome, after) ∧ after.view frame = view := by
  rcases run with stop | ⟨ended, after⟩
  · cases seen
  · cases seen
    exact ⟨after, rfl, rfl⟩

/-- The root sees its own variables only. -/
theorem scopes_root
    (rootLive : machine.environment.isLive Environment.root) :
    machine.environment.scopes Environment.root =
      [machine.environment.variables Environment.root] := by
  rw [Environment.scopes, Environment.chain_root rootLive]
  rfl

theorem isLive_merge
    (rootLive : machine.environment.isLive Environment.root) :
    (machine.merge script).environment.isLive Environment.root := by
  rwa [Environment.isLive_iff, depth_merge, ← Environment.isLive_iff]

/-- From the root, a script's functions are found before those that were there. -/
theorem known_merge
    (rootLive : machine.environment.isLive Environment.root)
    (name : String) :
    (machine.merge script).known Environment.root name =
      machine.mergedFunction script Environment.root name := by
  rw [known, ← functions_merge rootLive, Environment.function?,
    Environment.Reach.frames, Environment.chain_root (isLive_merge rootLive)]
  simp

/-- A script's variables stand over those of the root. -/
theorem numericIn_merge
    (rootLive : machine.environment.isLive Environment.root)
    (numeric : NumericIn (fun name => name ∈ script.variables) script.variables) :
    NumericIn (fun name => name ∈ script.variables)
      ((machine.merge script).environment.variables Environment.root) := by
  intro name isVariable
  obtain ⟨text, bound, isNumeric⟩ := numeric name isVariable
  refine ⟨text, ?_, isNumeric⟩
  simp only [merge, record, Environment.variables_overlayRoot _ _ _ rootLive, ↓reduceIte,
    Std.ExtTreeMap.getElem?_union, bound, Option.some_or]

variable
  {source : ByteArray}
  {members : List (String × Json)}
  {entries : List Json}
  {ids : List String}

/-- The commands of a script of arithmetic, run as its `init` in the root. -/
theorem call_of_computes
    {body : Composite}
    (live : machine.environment.isLive Environment.root)
    (builtins :
      ∀ operation : Operation,
        machine.known Environment.root operation.name =
          some (.builtin (.arithmetic operation)))
    {isKnown : String → Prop}
    (inTurn : AssignInTurn Command.Computes isKnown body.commands ids)
    (numeric :
      NumericIn isKnown (machine.environment.variables Environment.root)) :
    ∃ after,
      machine.call 1 (.composite body) Environment.root = .ok (.ok (), after) ∧
        after.sink = machine.sink ∧
        NumericIn (fun name => isKnown name ∨ name ∈ ids)
          (after.environment.variables Environment.root) := by
  obtain ⟨values, ran, allNumeric⟩ :=
    View.inOrder_of_computes builtins inTurn numeric 0 machine.sink
  have viewed :
      machine.view Environment.root =
        ⟨[machine.environment.variables Environment.root], machine.sink⟩ := by
    rw [view, scopes_root live]
  have seen := seenFrom_call live 1 (.composite body)
  rw [viewed] at seen
  simp only [View.call, ran, Except.map, Except.mapError] at seen
  obtain ⟨after, called, sameView⟩ := Run.exists_of_seenFrom_eq_ok seen
  have afterLive : after.environment.isLive Environment.root := by
    rwa [(kept_changesAlong.call called).toSameShape.isLive]
  rw [view, scopes_root afterLive] at sameView
  have sameValues : after.environment.variables Environment.root = values :=
    List.singleton_inj.mp (congrArg View.scopes sameView)
  have sameSink : after.sink = machine.sink := congrArg View.sink sameView
  exact ⟨after, called, sameSink, by rwa [sameValues]⟩

/--
A script whose `init` has only commands of arithmetic, on numbers and on variables
that are known by then, succeeds on every machine and writes nothing; every variable
that it declares or assigns is then bound in the root to a numeric text.
-/
theorem arithmetic_succeeds
    (rootLive : machine.environment.isLive Environment.root)
    (read : Json.membersOfDocument source = .ok members)
    (accepted : Script.ofSource source = .ok script)
    (notRedefined :
      ∀ (operation : Operation) (body : List Json),
        (Json.declarations members)[operation.name]? ≠ some (Json.array body))
    (isInit : (Json.declarations members)[initName]? = some (Json.array entries))
    (inTurn :
      AssignInTurn Json.IsArithmetic (fun name => name ∈ script.variables)
        entries ids) :
    ∃ after,
      Finishes (fun fuel => machine.runScript fuel script) (.ok ()) after ∧
        after.sink = machine.sink ∧
        ∀ name,
          name ∈ script.variables ∨ name ∈ ids →
            ∃ text,
              after.environment.value? .own Environment.root name = some text ∧
                (Numeral.read? text).isSome := by
  rw [Script.ofSource_eq_ofDeclarations read] at accepted
  have declares := Script.isDeclaredBy_of_ofDeclarations accepted
  obtain ⟨commands, bound, declared⟩ := declares.composite initName entries isInit
  have commandsInTurn :=
    inTurn.computes (fun _ => Json.ascending_of_declarations isInit) declared
  have builtins
      (operation : Operation) :
      (machine.merge script).known Environment.root operation.name =
        some (.builtin (.arithmetic operation)) := by
    have isBuiltin := declares.builtin (.arithmetic operation) (notRedefined operation)
    rw [known_merge rootLive, mergedFunction, if_pos rfl]
    exact Option.or_eq_some_iff.mpr (.inl isBuiltin)
  have numeric :=
    numericIn_merge rootLive (Script.numericIn_variables accepted)
  obtain ⟨after, called, sameSink, allNumeric⟩ :=
    @call_of_computes (machine.merge script) ids ⟨initName, commands⟩
      (isLive_merge rootLive) builtins _ commandsInTurn numeric
  have found :
      (machine.callable script)[initName]? =
        some (.composite ⟨initName, commands⟩) := by
    rw [callable, functions_merge rootLive, mergedFunction, if_pos rfl, bound]
    rfl
  refine ⟨after, ⟨1, runScript_eq_ok_iff.mpr (.inr ⟨_, found, called⟩)⟩, sameSink, ?_⟩
  intro name isKnown
  obtain ⟨text, isBound, isNumeric⟩ := allNumeric name isKnown
  refine ⟨text, ?_, isNumeric⟩
  simpa [Environment.value?, Environment.Reach.frames] using isBound

/-- A script that adds to its variable and divides the sum by zero. -/
def sumOverZero : ByteArray :=
  "\x7b\"x\": 2.5, \"init\": [\x7b\"cmd\": \"add\", \"id\": \"s\", \"operand1\": \"#x\", \"operand2\": 1\x7d, \x7b\"cmd\": \"#div\", \"id\": \"q\", \"operand1\": \"$s\", \"operand2\": \"0\"\x7d]\x7d".toUTF8

/-- The members of the command that adds. -/
def sumMembers : List (String × Json) :=
  [("cmd", .string "add"), ("id", .string "s"), ("operand1", .string ("#" ++ "x")),
    ("operand2", .number (.integer 1 (by decide)))]

/-- The members of the command that divides. -/
def overZeroMembers : List (String × Json) :=
  [("cmd", .string ("#" ++ "div")), ("id", .string "q"),
    ("operand1", .string ("$" ++ "s")), ("operand2", .string "0")]

theorem sumOverZero_inTurn
    {known : String → Prop}
    (isKnown : known "x") :
    AssignInTurn Json.IsArithmetic known
      [.object sumMembers, .object overZeroMembers] ["s", "q"] := by
  have addsUp : Command.IsArithmetic known "s" sumMembers :=
    { target := ⟨"add", .add, rfl, .inr ⟨by decide, rfl⟩⟩
      id := ⟨.string "s", rfl, .string "s", .literal "s" (by decide) (by decide)⟩
      noArgument := by decide
      operand1 := ⟨_, rfl, .ref isKnown⟩
      operand2 := ⟨_, rfl, .number _⟩ }
  have divides :
      Command.IsArithmetic (fun name => known name ∨ name = "s") "q" overZeroMembers :=
    { target := ⟨"#" ++ "div", .div, rfl, .inl rfl⟩
      id := ⟨.string "q", rfl, .string "q", .literal "q" (by decide) (by decide)⟩
      noArgument := by decide
      operand1 := ⟨_, rfl, .param (.inr rfl)⟩
      operand2 := ⟨_, rfl, .text (by decide)⟩ }
  exact .cons ⟨sumMembers, rfl, addsUp⟩ (.cons ⟨overZeroMembers, rfl, divides⟩ (.nil _))

/-- The sum and the quotient are numeric, infinite as the quotient is. -/
theorem sumOverZero_succeeds :
    ∃ members script after,
      Json.membersOfDocument sumOverZero = .ok members ∧
        Script.ofSource sumOverZero = .ok script ∧
        "x" ∈ script.variables ∧
        Finishes (fun fuel => bare.runScript fuel script) (.ok ()) after ∧
        after.sink = bare.sink ∧
        ∃ text,
          after.environment.value? .own Environment.root "q" = some text ∧
            (Numeral.read? text).isSome := by
  have isDocument :
      (Json.membersOfDocument sumOverZero).toOption.map
          (fun members =>
            ((Json.declarations members)[initName]?,
              [Operation.add, .sub, .mul, .div].map fun operation =>
                (Json.declarations members)[operation.name]?)) =
        some
          (some (.array [.object sumMembers, .object overZeroMembers]),
            [none, none, none, none]) := by
    decide +kernel
  have isScript :
      (Script.ofSource sumOverZero).toOption.map
          (fun script => script.variables["x"]?) =
        some (some "2.5") := by
    decide +kernel
  obtain ⟨members, read, sees⟩ := exists_eq_ok_of_observed isDocument
  obtain ⟨script, accepted, bound⟩ := exists_eq_ok_of_observed isScript
  obtain ⟨isInit, noOperation⟩ := Prod.mk.inj sees
  have isVariable : "x" ∈ script.variables := by
    rw [Std.ExtTreeMap.mem_iff_isSome_getElem?, bound]
    rfl
  have notRedefined
      (operation : Operation)
      (body : List Json) :
      (Json.declarations members)[operation.name]? ≠ some (Json.array body) := by
    simp only [List.map_cons, List.map_nil, List.cons.injEq, and_true] at noOperation
    obtain ⟨noAdd, noSub, noMul, noDiv⟩ := noOperation
    cases operation with
    | add => simp [noAdd]
    | sub => simp [noSub]
    | mul => simp [noMul]
    | div => simp [noDiv]
  obtain ⟨after, finishes, sameSink, numeric⟩ :=
    @arithmetic_succeeds bare script sumOverZero members _ _ rfl read accepted
      notRedefined isInit (sumOverZero_inTurn isVariable)
  exact ⟨members, script, after, read, accepted, isVariable, finishes, sameSink,
    numeric "q" (.inr (by decide))⟩

end Machine

end Scripts

end FunctionScript
