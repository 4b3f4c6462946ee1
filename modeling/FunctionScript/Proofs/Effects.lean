import FunctionScript.Effect

namespace FunctionScript

/-!
# Effects and the functions that have them

A builtin function looks for its attributes in its own frame, one after another, and then
reads its operands. If all of this goes well, it has the effect that the attributes ask
for; otherwise it fails with the first fault that it meets.
-/

theorem bind_eq_ok_iff
    {first : Except ε α}
    {rest : α → Except ε β}
    {value : β} :
    first >>= rest = .ok value ↔
      ∃ found, first = .ok found ∧ rest found = .ok value := by
  cases first <;> simp [bind, Except.bind]

theorem bind_eq_error_iff
    {first : Except ε α}
    {rest : α → Except ε β}
    {failure : ε} :
    first >>= rest = .error failure ↔
      first = .error failure ∨ ∃ found, first = .ok found ∧ rest found = .error failure := by
  cases first <;> simp [bind, Except.bind]

namespace Builtin

section Inputs

variable
  {builtin : Builtin}
  {environment : Environment}
  {frame : Nat}
  {sought role : Attribute}
  {value : String}
  {number : Binary64}
  {failure : Failure}

theorem required_eq_ok_iff :
    builtin.required environment frame sought = .ok value ↔
      environment.value? .own frame sought.name = some value := by
  rw [required]
  cases environment.value? .own frame sought.name <;> simp

theorem required_eq_error_iff :
    builtin.required environment frame sought = .error failure ↔
      environment.value? .own frame sought.name = none ∧
        failure = .missingArgument builtin sought := by
  rw [required]
  cases environment.value? .own frame sought.name <;> simp [eq_comm]

theorem operand_eq_ok_iff :
    builtin.operand role value = .ok number ↔ Numeral.read? value = some number := by
  rw [operand]
  cases Numeral.read? value <;> simp

theorem operand_eq_error_iff :
    builtin.operand role value = .error failure ↔
      Numeral.read? value = none ∧ failure = .numericConversion builtin role value := by
  rw [operand]
  cases Numeral.read? value <;> simp [eq_comm]

end Inputs

/-- The effect that a builtin function has when values are given under names. -/
inductive Asks
    (given : String → Option String) :
    Builtin →
    Effect →
    Prop where
  | create
      {name value : String}
      (id : given Attribute.id.name = some name)
      (text : given Attribute.value.name = some value) :
      Asks given .create (.assign name value)
  | update
      {name value : String}
      (id : given Attribute.id.name = some name)
      (text : given Attribute.value.name = some value) :
      Asks given .update (.update name value)
  | delete
      {name : String}
      (id : given Attribute.id.name = some name) :
      Asks given .delete (.delete name)
  | print
      {value : String}
      (text : given Attribute.value.name = some value) :
      Asks given .print (.write (printedLine value))
  | arithmetic
      {operation : Operation}
      {name left right : String}
      {first second : Binary64}
      (id : given Attribute.id.name = some name)
      (operand1 : given Attribute.operand1.name = some left)
      (operand2 : given Attribute.operand2.name = some right)
      (readLeft : Numeral.read? left = some first)
      (readRight : Numeral.read? right = some second) :
      Asks given (.arithmetic operation)
        (.assign name (Numeral.stored (operation.apply first second)))

/-- The attributes that have to be numbers, in the order in which they are read. -/
def operands :
    Builtin →
    List Attribute
  | arithmetic _ => [.operand1, .operand2]
  | _ => []

section Faults

variable
  (builtin : Builtin)
  (given : String → Option String)

/-- The first attribute that is not given. -/
def firstAbsent? : Option Attribute :=
  builtin.attributes.find? fun sought => (given sought.name).isNone

/-- The first operand that is given but is no number, and its text. -/
def firstUnread? : Option (Attribute × String) :=
  builtin.operands.findSome? fun role =>
    (given role.name).bind fun value =>
      if (Numeral.read? value).isNone then some (role, value) else none

/-- The fault of what is given, if there is one: an absent attribute comes before an unread one. -/
def inputFault? : Option Failure :=
  match builtin.firstAbsent? given with
  | some sought => some (.missingArgument builtin sought)
  | none =>
      (builtin.firstUnread? given).map fun (role, value) =>
        .numericConversion builtin role value

end Faults

variable
  {builtin : Builtin}
  {environment : Environment}
  {frame : Nat}
  {effect : Effect}
  {failure : Failure}

/-- A builtin function settles on the effect that its own frame asks for. -/
theorem effect_eq_ok_iff :
    builtin.effect environment frame = .ok effect ↔
      Asks (environment.value? .own frame) builtin effect := by
  constructor
  · intro settled
    cases builtin <;>
      simp only [Builtin.effect, bind_eq_ok_iff, required_eq_ok_iff, operand_eq_ok_iff,
        pure, Except.pure, Except.ok.injEq] at settled
    case create =>
      obtain ⟨name, id, value, text, rfl⟩ := settled
      exact .create id text
    case update =>
      obtain ⟨name, id, value, text, rfl⟩ := settled
      exact .update id text
    case delete =>
      obtain ⟨name, id, rfl⟩ := settled
      exact .delete id
    case print =>
      obtain ⟨value, text, rfl⟩ := settled
      exact .print text
    case arithmetic operation =>
      obtain ⟨name, id, left, operand1, right, operand2, first, readLeft,
        second, readRight, rfl⟩ := settled
      exact .arithmetic id operand1 operand2 readLeft readRight
  · intro asks
    cases asks <;>
      simp_all [Builtin.effect, required, operand, bind, Except.bind, pure, Except.pure]

theorem inputFault?_eq_none_of_asks
    {given : String → Option String}
    (asks : Asks given builtin effect) :
    builtin.inputFault? given = none := by
  cases asks <;>
    simp_all [inputFault?, firstAbsent?, firstUnread?, attributes, operands]

theorem inputFault?_of_effect
    (failed : builtin.effect environment frame = .error failure) :
    builtin.inputFault? (environment.value? .own frame) = some failure := by
  cases builtin <;>
    simp only [Builtin.effect, bind_eq_error_iff, required_eq_ok_iff, required_eq_error_iff,
      operand_eq_ok_iff, operand_eq_error_iff, pure, Except.pure, reduceCtorEq, and_false,
      exists_false, or_false] at failed
  case create | update =>
    rcases failed with ⟨absent, rfl⟩ | ⟨name, id, absent, rfl⟩ <;>
      simp_all [inputFault?, firstAbsent?, attributes]
  case delete | print =>
    obtain ⟨absent, rfl⟩ := failed
    simp [inputFault?, firstAbsent?, attributes, absent]
  case arithmetic operation =>
    rcases failed with ⟨absent, rfl⟩ |
        ⟨name, id, ⟨absent, rfl⟩ | ⟨left, operand1, ⟨absent, rfl⟩ |
          ⟨right, operand2, ⟨unread, rfl⟩ | ⟨first, readLeft, unread, rfl⟩⟩⟩⟩ <;>
      simp_all [inputFault?, firstAbsent?, firstUnread?, attributes, operands]

/-- A builtin function fails with the first fault of what its own frame gives. -/
theorem effect_eq_error_iff :
    builtin.effect environment frame = .error failure ↔
      builtin.inputFault? (environment.value? .own frame) = some failure := by
  constructor
  · exact inputFault?_of_effect
  · intro fault
    cases settled : builtin.effect environment frame with
    | ok effect =>
        cases fault.symm.trans (inputFault?_eq_none_of_asks (effect_eq_ok_iff.mp settled))
    | error other =>
        cases fault.symm.trans (inputFault?_of_effect settled)
        rfl

/-- A builtin function whose inputs have no fault asks for an effect. -/
theorem exists_asks_of_inputFault?_eq_none
    (noFault : builtin.inputFault? (environment.value? .own frame) = none) :
    ∃ effect, Asks (environment.value? .own frame) builtin effect := by
  cases settled : builtin.effect environment frame with
  | ok effect => exact ⟨effect, effect_eq_ok_iff.mp settled⟩
  | error failure =>
      cases noFault.symm.trans (effect_eq_error_iff.mp settled)

end Builtin

/-- Whether the builtin function is one that has effects of this kind. -/
def Effect.BelongsTo :
    Effect →
    Builtin →
    Prop
  | .assign _ _, builtin =>
      builtin = .create ∨ ∃ operation, builtin = .arithmetic operation
  | .update _ _, builtin => builtin = .update
  | .delete _, builtin => builtin = .delete
  | .write _, builtin => builtin = .print

/-- A builtin function settles on an effect of its own kind. -/
theorem Builtin.belongsTo_of_effect
    {builtin : Builtin}
    {environment : Environment}
    {frame : Nat}
    {effect : Effect}
    (settled : builtin.effect environment frame = .ok effect) :
    effect.BelongsTo builtin := by
  cases effect_eq_ok_iff.mp settled with
  | create | update | delete | print | arithmetic =>
      simp [Effect.BelongsTo]

end FunctionScript
