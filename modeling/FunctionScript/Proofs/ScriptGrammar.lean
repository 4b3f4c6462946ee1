import FunctionScript.Proofs.CommandGrammar
import FunctionScript.Proofs.TableLookup

namespace FunctionScript

/-!
# The grammar of scripts

Which documents are scripts is said here without reading one: `init` is an array,
the entries of every array are commands, and every string is a number. Reading a
document succeeds on exactly these, and then gives the script that the document
declares: a function for each array, the builtin functions that no array replaces,
and a variable for each number and each string.
-/

/-- A value that may stand in a document: arrays hold commands, and strings are numbers. -/
def Json.IsDeclaration :
    Json →
    Prop
  | .array entries => ∀ entry ∈ entries, Command.IsEntry entry
  | .string text => (Numeral.read? text).isSome
  | _ => True

namespace Declaration

/-- The function that is declared, if one is. -/
def function? :
    Declaration →
    Option Function
  | .function body => some (.composite body)
  | _ => none

/-- The value of the variable that is declared, if one is. -/
def value? :
    Declaration →
    Option String
  | .value text => some text
  | _ => none

variable
  {name : String}
  {declaration : Declaration}

theorem exists_ofJson_iff
    {value : Json} :
    (∃ declaration, ofJson name value = .ok declaration) ↔ value.IsDeclaration := by
  cases value with
  | array entries =>
      simp only [Json.IsDeclaration, ← @Command.exists_ofEntry_iff name,
        ← exists_mapM_eq_ok_iff, ofJson, bind, Except.bind, pure, Except.pure]
      cases entries.mapM (Command.ofEntry name) <;> simp
  | string text =>
      by_cases numeric : (Numeral.read? text).isSome <;>
        simp [ofJson, Json.IsDeclaration, numeric]
  | null | boolean | number | object => simp [ofJson, Json.IsDeclaration]

theorem ofJson_array_eq_ok_iff
    {entries : List Json} :
    ofJson name (.array entries) = .ok declaration ↔
      ∃ commands,
        declaration = .function ⟨name, commands⟩ ∧
          List.Forall₂ (fun entry command => Command.ofEntry name entry = .ok command)
            entries commands := by
  simp only [← mapM_eq_ok_iff, ofJson, bind, Except.bind, pure, Except.pure]
  cases entries.mapM (Command.ofEntry name) <;> simp [eq_comm]

/-- Only arrays declare functions. -/
theorem eq_array_of_function?
    {value : Json}
    {function : Function}
    (declared : ofJson name value = .ok declaration)
    (isFunction : declaration.function? = some function) :
    ∃ entries, value = .array entries := by
  cases value with
  | array entries => exact ⟨entries, rfl⟩
  | string text =>
      simp only [ofJson] at declared
      split at declared <;> cases declared
      cases isFunction
  | null | boolean | number | object =>
      cases declared
      cases isFunction

/-- Numbers and strings declare variables: numbers in their shortest text, strings as they are. -/
theorem value?_eq_some_iff
    {value : Json}
    {text : String}
    (declared : ofJson name value = .ok declaration) :
    declaration.value? = some text ↔
      (∃ found, value = .number found ∧ text = Numeral.shortest found.toBinary64) ∨
        value = .string text := by
  cases value with
  | array entries =>
      obtain ⟨commands, rfl, _⟩ := ofJson_array_eq_ok_iff.mp declared
      simp [value?]
  | string written =>
      simp only [ofJson] at declared
      split at declared <;> cases declared
      simp [value?]
  | null | boolean | number | object =>
      cases declared
      simp [value?, eq_comm]

end Declaration

theorem Builtin.mem_all
    (builtin : Builtin) :
    builtin ∈ Builtin.all := by
  rcases builtin with _ | _ | _ | _ | operation
  case arithmetic => cases operation <;> decide
  all_goals decide

/-- The table of builtin functions binds their names, and nothing else. -/
theorem Function.getElem?_builtins
    {name : String}
    {function : Function} :
    Function.builtins[name]? = some function ↔
      ∃ builtin : Builtin, builtin.name = name ∧ function = .builtin builtin := by
  have distinct :
      (((Builtin.all.map fun builtin =>
        (builtin.name, Function.builtin builtin)).reverse).map Prod.fst).Nodup := by
    decide
  rw [Function.builtins, Table.getElem?_ofEntries,
    Table.lookup_eq_some_iff_mem distinct]
  simp only [List.mem_reverse, List.mem_map, Prod.mk.injEq]
  constructor
  · rintro ⟨builtin, _, sameName, rfl⟩
    exact ⟨builtin, sameName, rfl⟩
  · rintro ⟨builtin, sameName, rfl⟩
    exact ⟨builtin, builtin.mem_all, sameName, rfl⟩

/-- A script has to declare `init` itself. -/
theorem Builtin.name_ne_initName
    (builtin : Builtin) :
    builtin.name ≠ initName := by
  rcases builtin with _ | _ | _ | _ | operation
  case arithmetic => cases operation <;> decide
  all_goals decide

namespace Script

section DeclareAll

variable
  {declared : List (String × Declaration)}
  {table : Script → Table α}
  {part : Declaration → Option α}

/-- A table of a script holds, under each name, what is declared there last. -/
theorem lookup_declareAll
    (declares :
      ∀ script name declaration sought,
        (table (declare script name declaration))[sought]? =
          if name = sought then
            (part declaration).or (table script)[sought]?
          else
            (table script)[sought]?)
    (distinct : (declared.map Prod.fst).Nodup)
    (script : Script)
    (name : String) :
    (table (declared.foldl
        (fun script entry => script.declare entry.1 entry.2) script))[name]? =
      ((declared.lookup name).bind part).or (table script)[name]? := by
  induction declared generalizing script with
  | nil => simp
  | cons entry rest inductionHypothesis =>
      obtain ⟨first, declaration⟩ := entry
      rw [List.map_cons, List.nodup_cons] at distinct
      obtain ⟨fresh, restDistinct⟩ := distinct
      rw [List.foldl_cons, inductionHypothesis restDistinct, declares]
      by_cases same : first = name
      · subst same
        have notInRest : rest.lookup first = none := by
          rw [List.lookup_eq_none_iff]
          intro other member
          have different : first ≠ other.1 := by
            rintro rfl
            exact fresh (List.mem_map.mpr ⟨other, member, rfl⟩)
          simpa using different
        simp [notInRest]
      · simp [same, List.lookup_cons, beq_eq_false_iff_ne.mpr (Ne.symm same)]

theorem functions_declare
    (script : Script)
    (name : String)
    (declaration : Declaration)
    (sought : String) :
    (script.declare name declaration).functions[sought]? =
      if name = sought then
        declaration.function?.or script.functions[sought]?
      else
        script.functions[sought]? := by
  cases declaration <;>
    simp [declare, Declaration.function?, Table.getElem?_insert_eq]

theorem variables_declare
    (script : Script)
    (name : String)
    (declaration : Declaration)
    (sought : String) :
    (script.declare name declaration).variables[sought]? =
      if name = sought then
        declaration.value?.or script.variables[sought]?
      else
        script.variables[sought]? := by
  cases declaration <;>
    simp [declare, Declaration.value?, Table.getElem?_insert_eq]

end DeclareAll

theorem readDeclaration_eq_ok_iff
    {member : String × Json}
    {entry : String × Declaration} :
    readDeclaration member = .ok entry ↔
      entry.1 = member.1 ∧ Declaration.ofJson member.1 member.2 = .ok entry.2 := by
  obtain ⟨name, declaration⟩ := entry
  rw [readDeclaration]
  cases Declaration.ofJson member.1 member.2 <;>
    simp [Except.map, eq_comm]

/-- What is declared under a name is what its member declares. -/
theorem lookup_declared
    {members : List (String × Json)}
    {declared : List (String × Declaration)}
    (read :
      List.Forall₂ (fun member entry => readDeclaration member = .ok entry)
        members declared)
    (name : String) :
    (members.lookup name).map (Declaration.ofJson name) =
      (declared.lookup name).map .ok := by
  induction read with
  | nil => rfl
  | @cons member entry members declared isRead _ inductionHypothesis =>
      obtain ⟨first, value⟩ := member
      obtain ⟨listed, declaration⟩ := entry
      obtain ⟨rfl, isDeclared⟩ := readDeclaration_eq_ok_iff.mp isRead
      by_cases same : name = listed
      · subst same
        simp [isDeclared]
      · simp [List.lookup_cons, beq_eq_false_iff_ne.mpr same, inductionHypothesis]

theorem names_declared
    {members : List (String × Json)}
    {declared : List (String × Declaration)}
    (read :
      List.Forall₂ (fun member entry => readDeclaration member = .ok entry)
        members declared) :
    declared.map Prod.fst = members.map Prod.fst := by
  induction read with
  | nil => rfl
  | cons isRead _ inductionHypothesis =>
      rw [List.map_cons, List.map_cons, inductionHypothesis,
        (readDeclaration_eq_ok_iff.mp isRead).1]

section Documents

variable
  {document : Table Json}
  {script : Script}

/-- A script is what all members of its document declare, if that includes `init`. -/
theorem ofDeclarations_eq_ok_iff :
    ofDeclarations document = .ok script ↔
      ∃ declared,
        List.Forall₂ (fun member entry => readDeclaration member = .ok entry)
            document.toList declared ∧
          declared.foldl (fun script entry => script.declare entry.1 entry.2) empty =
            script ∧
          initName ∈ script.functions := by
  simp only [← mapM_eq_ok_iff, ofDeclarations, bind, Except.bind]
  cases document.toList.mapM readDeclaration with
  | error failure => simp
  | ok declared =>
      simp only [Except.ok.injEq, exists_eq_left']
      split <;> rename_i hasInit
      · simp only [pure, Except.pure, Except.ok.injEq]
        constructor
        · rintro rfl
          exact ⟨rfl, Std.ExtTreeMap.contains_iff_mem.mp hasInit⟩
        · exact And.left
      · simp only [throw, throwThe, MonadExceptOf.throw, reduceCtorEq, false_iff]
        rintro ⟨rfl, isMember⟩
        exact hasInit (Std.ExtTreeMap.contains_iff_mem.mpr isMember)

/-- What a member of the document declares, if it is a declaration. -/
def declaration?
    (document : Table Json)
    (name : String) :
    Option Declaration :=
  document[name]?.bind fun value => (Declaration.ofJson name value).toOption

theorem declaration?_eq_some_iff
    {name : String}
    {declaration : Declaration} :
    declaration? document name = some declaration ↔
      ∃ value,
        document[name]? = some value ∧
          Declaration.ofJson name value = .ok declaration := by
  rw [declaration?, Option.bind_eq_some_iff]
  refine exists_congr fun value => and_congr_right fun _ => ?_
  cases Declaration.ofJson name value <;> simp [Except.toOption]

/-- What is read of a document's members is what they declare, under distinct names. -/
theorem lookup_eq_declaration?
    {declared : List (String × Declaration)}
    (read :
      List.Forall₂ (fun member entry => readDeclaration member = .ok entry)
        document.toList declared)
    (name : String) :
    declared.lookup name = declaration? document name := by
  have sameLookup := lookup_declared read name
  rw [Table.lookup_toList] at sameLookup
  rw [declaration?]
  cases found : document[name]? with
  | none =>
      rw [found] at sameLookup
      simpa using sameLookup.symm
  | some value =>
      rw [found] at sameLookup
      cases listed : declared.lookup name with
      | none => simp [listed] at sameLookup
      | some declaration =>
          simp only [listed, Option.map_some, Option.some.injEq] at sameLookup
          simp [sameLookup, Except.toOption]

/-- The functions that are declared stand over the builtin ones. -/
theorem functions_declareAll
    {declared : List (String × Declaration)}
    (read :
      List.Forall₂ (fun member entry => readDeclaration member = .ok entry)
        document.toList declared)
    (name : String) :
    (declared.foldl
        (fun script entry => script.declare entry.1 entry.2) empty).functions[name]? =
      ((declaration? document name).bind Declaration.function?).or
        Function.builtins[name]? := by
  have distinct : (declared.map Prod.fst).Nodup := by
    rw [names_declared read]
    exact document.nodup_names
  rw [← lookup_eq_declaration? read]
  exact lookup_declareAll functions_declare distinct empty name

theorem functions_of_ofDeclarations
    (accepted : ofDeclarations document = .ok script)
    (name : String) :
    script.functions[name]? =
      ((declaration? document name).bind Declaration.function?).or
        Function.builtins[name]? := by
  obtain ⟨declared, read, rfl, _⟩ := ofDeclarations_eq_ok_iff.mp accepted
  exact functions_declareAll read name

theorem variables_of_ofDeclarations
    (accepted : ofDeclarations document = .ok script)
    (name : String) :
    script.variables[name]? =
      (declaration? document name).bind Declaration.value? := by
  obtain ⟨declared, read, rfl, _⟩ := ofDeclarations_eq_ok_iff.mp accepted
  have distinct : (declared.map Prod.fst).Nodup := by
    rw [names_declared read]
    exact document.nodup_names
  rw [← lookup_eq_declaration? read,
    lookup_declareAll variables_declare distinct empty name]
  simp [empty]

/-- Every member of a document that is a script declares something. -/
theorem exists_declaration
    (accepted : ofDeclarations document = .ok script)
    {name : String}
    {value : Json}
    (found : document[name]? = some value) :
    ∃ declaration,
      Declaration.ofJson name value = .ok declaration ∧
        declaration? document name = some declaration := by
  obtain ⟨declared, read, _, _⟩ := ofDeclarations_eq_ok_iff.mp accepted
  have sameLookup := lookup_declared read name
  rw [Table.lookup_toList, found] at sameLookup
  cases listed : declared.lookup name with
  | none => simp [listed] at sameLookup
  | some declaration =>
      simp only [listed, Option.map_some, Option.some.injEq] at sameLookup
      exact ⟨declaration, sameLookup,
        declaration?_eq_some_iff.mpr ⟨value, found, sameLookup⟩⟩

/-- Documents that are scripts. -/
structure IsGrammatical
    (document : Table Json) :
    Prop where
  init : ∃ entries, document[initName]? = some (Json.array entries)
  commands :
    ∀ (name : String) (entries : List Json),
      document[name]? = some (Json.array entries) →
        ∀ entry ∈ entries, Command.IsEntry entry
  texts :
    ∀ name text : String,
      document[name]? = some (Json.string text) → (Numeral.read? text).isSome

theorem isDeclaration_of_isGrammatical
    (grammatical : IsGrammatical document)
    {name : String}
    {value : Json}
    (found : document[name]? = some value) :
    value.IsDeclaration := by
  cases value with
  | array entries => exact grammatical.commands name entries found
  | string text => exact grammatical.texts name text found
  | null | boolean | number | object => trivial

/-- Reading a document succeeds on exactly those that are scripts. -/
theorem exists_ofDeclarations_iff :
    (∃ script, ofDeclarations document = .ok script) ↔ IsGrammatical document := by
  constructor
  · intro ⟨script, accepted⟩
    have isDeclaration
        {name : String}
        {value : Json}
        (found : document[name]? = some value) :
        value.IsDeclaration := by
      obtain ⟨declaration, isDeclared, _⟩ := exists_declaration accepted found
      exact Declaration.exists_ofJson_iff.mp ⟨declaration, isDeclared⟩
    refine ⟨?init, fun _ _ => isDeclaration, fun _ _ => isDeclaration⟩
    case init =>
      obtain ⟨_, _, _, hasInit⟩ := ofDeclarations_eq_ok_iff.mp accepted
      obtain ⟨function, bound⟩ :=
        Option.isSome_iff_exists.mp
          (Std.ExtTreeMap.mem_iff_isSome_getElem?.mp hasInit)
      rw [functions_of_ofDeclarations accepted, Option.or_eq_some_iff] at bound
      rcases bound with isDeclared | ⟨_, isBuiltin⟩
      · obtain ⟨declaration, declared, isFunction⟩ :=
          Option.bind_eq_some_iff.mp isDeclared
        obtain ⟨value, found, read⟩ := declaration?_eq_some_iff.mp declared
        obtain ⟨entries, rfl⟩ := Declaration.eq_array_of_function? read isFunction
        exact ⟨entries, found⟩
      · obtain ⟨builtin, sameName, _⟩ := Function.getElem?_builtins.mp isBuiltin
        exact absurd sameName builtin.name_ne_initName
  · intro grammatical
    have readable :
        ∃ declared, document.toList.mapM readDeclaration = .ok declared := by
      rw [exists_mapM_eq_ok_iff]
      intro ⟨name, value⟩ member
      have found := Std.ExtTreeMap.mem_toList_iff_getElem?_eq_some.mp member
      obtain ⟨declaration, isDeclared⟩ :=
        (@Declaration.exists_ofJson_iff name value).mpr
          (isDeclaration_of_isGrammatical grammatical found)
      exact ⟨(name, declaration), readDeclaration_eq_ok_iff.mpr ⟨rfl, isDeclared⟩⟩
    obtain ⟨declared, isRead⟩ := readable
    have read := mapM_eq_ok_iff.mp isRead
    refine ⟨_, ofDeclarations_eq_ok_iff.mpr ⟨declared, read, rfl, ?_⟩⟩
    obtain ⟨entries, found⟩ := grammatical.init
    obtain ⟨declaration, isDeclared⟩ :=
      (@Declaration.exists_ofJson_iff initName _).mpr
        (isDeclaration_of_isGrammatical grammatical found)
    have declares := declaration?_eq_some_iff.mpr ⟨_, found, isDeclared⟩
    obtain ⟨commands, rfl, _⟩ := Declaration.ofJson_array_eq_ok_iff.mp isDeclared
    rw [Std.ExtTreeMap.mem_iff_isSome_getElem?, functions_declareAll read, declares]
    rfl

/-- The script that a document declares. -/
structure IsDeclaredBy
    (script : Script)
    (document : Table Json) :
    Prop where
  composite :
    ∀ (name : String) (entries : List Json),
      document[name]? = some (Json.array entries) →
        ∃ commands,
          script.functions[name]? = some (.composite ⟨name, commands⟩) ∧
            List.Forall₂
              (fun (entry : Json) (command : Command) =>
                ∃ members, entry = .object members ∧ command.DeclaredBy members)
              entries commands
  builtin :
    ∀ builtin : Builtin,
      (∀ entries, document[builtin.name]? ≠ some (Json.array entries)) →
        script.functions[builtin.name]? = some (.builtin builtin)
  nothingElse :
    ∀ name : String,
      name ∈ script.functions →
        (∃ entries, document[name]? = some (Json.array entries)) ∨
          ∃ builtin : Builtin, builtin.name = name
  «variables» :
    ∀ name text : String,
      script.variables[name]? = some text ↔
        (∃ found,
          document[name]? = some (Json.number found) ∧
            text = Numeral.shortest found.toBinary64) ∨
          document[name]? = some (Json.string text)

/-- What a member that is no array declares is no function. -/
theorem functions_of_no_array
    (accepted : ofDeclarations document = .ok script)
    {name : String}
    (noArray : ∀ entries, document[name]? ≠ some (Json.array entries)) :
    script.functions[name]? = Function.builtins[name]? := by
  rw [functions_of_ofDeclarations accepted]
  cases declared : (declaration? document name).bind Declaration.function? with
  | none => rfl
  | some function =>
      obtain ⟨declaration, declares, isFunction⟩ :=
        Option.bind_eq_some_iff.mp declared
      obtain ⟨value, found, isDeclared⟩ := declaration?_eq_some_iff.mp declares
      obtain ⟨entries, rfl⟩ := Declaration.eq_array_of_function? isDeclared isFunction
      exact absurd found (noArray entries)

theorem isDeclaredBy_of_ofDeclarations
    (accepted : ofDeclarations document = .ok script) :
    script.IsDeclaredBy document where
  composite := by
    intro name entries found
    obtain ⟨declaration, isDeclared, declares⟩ := exists_declaration accepted found
    obtain ⟨commands, rfl, read⟩ := Declaration.ofJson_array_eq_ok_iff.mp isDeclared
    refine ⟨commands, ?_, ?_⟩
    · rw [functions_of_ofDeclarations accepted, declares]
      rfl
    · simpa only [Command.ofEntry_eq_ok_iff] using read
  builtin := by
    intro builtin noArray
    rw [functions_of_no_array accepted noArray]
    exact Function.getElem?_builtins.mpr ⟨builtin, rfl, rfl⟩
  nothingElse := by
    intro name bound
    by_cases isArray : ∃ entries, document[name]? = some (Json.array entries)
    · exact .inl isArray
    · rw [Std.ExtTreeMap.mem_iff_isSome_getElem?,
        functions_of_no_array accepted (not_exists.mp isArray),
        Option.isSome_iff_exists] at bound
      obtain ⟨function, isBuiltin⟩ := bound
      obtain ⟨builtin, sameName, _⟩ := Function.getElem?_builtins.mp isBuiltin
      exact .inr ⟨builtin, sameName⟩
  «variables» := by
    intro name text
    rw [variables_of_ofDeclarations accepted]
    cases found : document[name]? with
    | none => simp [declaration?, found]
    | some value =>
        obtain ⟨declaration, isDeclared, declares⟩ := exists_declaration accepted found
        rw [declares, Option.bind_some, Declaration.value?_eq_some_iff isDeclared]
        simp

/-- The composite functions of a script are those that its arrays declare. -/
theorem exists_entries_of_composite
    (accepted : ofDeclarations document = .ok script)
    {name : String}
    {body : Composite}
    (bound : script.functions[name]? = some (.composite body)) :
    ∃ entries commands,
      document[name]? = some (Json.array entries) ∧
        body = ⟨name, commands⟩ ∧
        List.Forall₂
          (fun (entry : Json) (command : Command) =>
            ∃ members, entry = .object members ∧ command.DeclaredBy members)
          entries commands := by
  by_cases isArray : ∃ entries, document[name]? = some (Json.array entries)
  · obtain ⟨entries, found⟩ := isArray
    obtain ⟨commands, sameBound, declares⟩ :=
      (isDeclaredBy_of_ofDeclarations accepted).composite name entries found
    exact ⟨entries, commands, found, by simpa [bound] using sameBound, declares⟩
  · rw [functions_of_no_array accepted (not_exists.mp isArray)] at bound
    obtain ⟨_, _, isBuiltin⟩ := Function.getElem?_builtins.mp bound
    cases isBuiltin

/-- A script binds composite functions under their own names. -/
theorem name_of_ofDeclarations
    (accepted : ofDeclarations document = .ok script)
    {name : String}
    {body : Composite}
    (bound : script.functions[name]? = some (.composite body)) :
    body.name = name := by
  obtain ⟨_, commands, _, rfl, _⟩ := exists_entries_of_composite accepted bound
  rfl

theorem exists_init_of_ofDeclarations
    (accepted : ofDeclarations document = .ok script) :
    ∃ commands,
      script.functions[initName]? = some (.composite ⟨initName, commands⟩) := by
  obtain ⟨entries, found⟩ := (exists_ofDeclarations_iff.mp ⟨script, accepted⟩).init
  obtain ⟨commands, bound, _⟩ :=
    (isDeclaredBy_of_ofDeclarations accepted).composite initName entries found
  exact ⟨commands, bound⟩

end Documents

end Script

namespace Json

theorem canonicalItems_eq_map
    (items : List Json) :
    canonicalItems items = items.map canonical := by
  induction items with
  | nil => rfl
  | cons item rest inductionHypothesis =>
      rw [canonicalItems, inductionHypothesis, List.map_cons]

theorem canonicalMembers_eq_map
    (members : List (String × Json)) :
    canonicalMembers members =
      members.map fun member => (member.1, canonical member.2) := by
  induction members with
  | nil => rfl
  | cons member rest inductionHypothesis =>
      rw [canonicalMembers, inductionHypothesis, List.map_cons]

/-- Of the members of one name, the last one counts. -/
theorem getElem?_declarations
    (members : List (String × Json))
    (name : String) :
    (declarations members)[name]? =
      (members.reverse.lookup name).map canonical := by
  rw [declarations, Table.getElem?_ofEntries, canonicalMembers_eq_map,
    ← List.map_reverse]
  induction members.reverse with
  | nil => rfl
  | cons member rest inductionHypothesis =>
      obtain ⟨listed, value⟩ := member
      by_cases same : name = listed
      · simp [same]
      · simp [List.lookup_cons, beq_eq_false_iff_ne.mpr same, inductionHypothesis]

/-- In canonical form, the members of an object stand in ascending order. -/
theorem ascending_of_canonical
    {value : Json}
    {members : List (String × Json)}
    (isObject : value.canonical = .object members) :
    members.Pairwise fun first second => first.1 < second.1 := by
  cases value with
  | object written =>
      simp only [canonical, object.injEq] at isObject
      rw [← isObject]
      exact Table.ascending_names _
  | null | boolean | number | string | array => simp [canonical] at isObject

/-- The objects in the arrays of a document have their members in ascending order. -/
theorem ascending_of_declarations
    {written : List (String × Json)}
    {name : String}
    {entries : List Json}
    {members : List (String × Json)}
    (found : (declarations written)[name]? = some (.array entries))
    (member : object members ∈ entries) :
    members.Pairwise fun first second => first.1 < second.1 := by
  rw [getElem?_declarations, Option.map_eq_some_iff] at found
  obtain ⟨value, _, isArray⟩ := found
  cases value with
  | array items =>
      simp only [canonical, array.injEq, canonicalItems_eq_map] at isArray
      rw [← isArray, List.mem_map] at member
      obtain ⟨item, _, isObject⟩ := member
      exact ascending_of_canonical isObject
  | null | boolean | number | string | object => simp [canonical] at isArray

end Json

namespace Script

theorem ofSource_eq_ofDeclarations
    {source : ByteArray}
    {members : List (String × Json)}
    (read : Json.membersOfDocument source = .ok members) :
    ofSource source = ofDeclarations (Json.declarations members) := by
  simp [ofSource, readDocument, read, Except.bind]

/-- What is read as a script is a document that declares one. -/
theorem exists_members_of_ofSource
    {source : ByteArray}
    {script : Script}
    (accepted : ofSource source = .ok script) :
    ∃ members,
      Json.membersOfDocument source = .ok members ∧
        ofDeclarations (Json.declarations members) = .ok script := by
  cases read : Json.membersOfDocument source with
  | ok members =>
      rw [ofSource_eq_ofDeclarations read] at accepted
      exact ⟨members, rfl, accepted⟩
  | error failure => simp [ofSource, readDocument, read, Except.bind] at accepted

/--
A document that is an object is a script exactly if it is grammatical, the last one
of several members of one name being the one that counts. It is then read as the
script that it declares, in which every command has its arguments in ascending order.
-/
theorem ofSource_accepts_grammatical
    {source : ByteArray}
    {members : List (String × Json)}
    (read : Json.membersOfDocument source = .ok members) :
    (∀ name : String,
      (Json.declarations members)[name]? =
        (members.reverse.lookup name).map Json.canonical) ∧
    ((∃ script, ofSource source = .ok script) ↔
      IsGrammatical (Json.declarations members)) ∧
    ∀ script,
      ofSource source = .ok script →
        script.IsDeclaredBy (Json.declarations members) ∧
        ∀ (name : String) (body : Composite),
          script.functions[name]? = some (.composite body) →
            ∀ command ∈ body.commands,
              command.arguments.Pairwise fun first second =>
                first.name < second.name := by
  rw [ofSource_eq_ofDeclarations read]
  refine ⟨Json.getElem?_declarations members, exists_ofDeclarations_iff, ?_⟩
  intro script accepted
  refine ⟨isDeclaredBy_of_ofDeclarations accepted, ?_⟩
  intro name body bound command member
  obtain ⟨entries, commands, found, rfl, declares⟩ :=
    exists_entries_of_composite accepted bound
  obtain ⟨entry, inEntries, written, rfl, commandDeclared⟩ :=
    exists_mem_of_forall₂ declares member
  exact commandDeclared.ascending (Json.ascending_of_declarations found inEntries)

/-- A document with a number under the name of a builtin function, given twice. -/
def repeatedNumber : ByteArray :=
  "\x7b\"print\": 5, \"init\": [\x7b\"cmd\": \"#print\", \"value\": \"$x\"\x7d], \"print\": 2\x7d".toUTF8

/-- The number that is written last is a variable, and the builtin function stays bound. -/
theorem repeatedNumber_accepted :
    ∃ members script,
      Json.membersOfDocument repeatedNumber = .ok members ∧
        IsGrammatical (Json.declarations members) ∧
        ofSource repeatedNumber = .ok script ∧
        script.variables["print"]? = some "2" ∧
        script.functions["print"]? = some (.builtin .print) := by
  have isObject :
      (Json.membersOfDocument repeatedNumber).toOption.map (fun _ => ()) = some () := by
    decide +kernel
  have isScript :
      (ofSource repeatedNumber).toOption.map (fun script => script.variables["print"]?) =
        some (some "2") := by
    decide +kernel
  obtain ⟨members, read, _⟩ := exists_eq_ok_of_observed isObject
  obtain ⟨script, accepted, isTwo⟩ := exists_eq_ok_of_observed isScript
  obtain ⟨_, acceptedIff, declares⟩ := ofSource_accepts_grammatical read
  have declared := (declares script accepted).1
  refine
    ⟨members, script, read, acceptedIff.mp ⟨script, accepted⟩, accepted, isTwo, ?_⟩
  refine declared.builtin .print fun entries isArray => ?_
  have isArray :
      (Json.declarations members)["print"]? = some (Json.array entries) :=
    isArray
  have isValue := (declared.variables "print" "2").mp isTwo
  simp [isArray] at isValue

end Script

end FunctionScript
