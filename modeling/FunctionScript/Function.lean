import FunctionScript.Binary64.Arithmetic
import FunctionScript.Command
import FunctionScript.Table

namespace FunctionScript

/-!
# Functions

A function is built in, or it is composed of commands that run one after another.
The built-in functions form a closed set, and each of them states the attributes
it cannot do without.
-/

/-- The four operations of arithmetic. -/
inductive Operation where
  | add
  | sub
  | mul
  | div
  deriving DecidableEq, Repr

namespace Operation

/-- The name that scripts call the operation by. -/
def name :
    Operation →
    String
  | add => "add"
  | sub => "sub"
  | mul => "mul"
  | div => "div"

def apply :
    Operation →
    Binary64 →
    Binary64 →
    Binary64
  | add => Binary64.add
  | sub => Binary64.sub
  | mul => Binary64.mul
  | div => Binary64.div

end Operation

/-- What a built-in function reads from its own frame. -/
inductive Attribute where
  | id
  | value
  | operand1
  | operand2
  deriving DecidableEq, Repr

/-- The name of the argument that carries the attribute. -/
def Attribute.name :
    Attribute →
    String
  | id => "id"
  | value => "value"
  | operand1 => "operand1"
  | operand2 => "operand2"

inductive Builtin where
  /-- Assign a variable, wherever it is bound. -/
  | create
  /-- Remove a variable that is bound. -/
  | delete
  /-- Assign a variable that is bound. -/
  | update
  /-- Write a value and a line break. -/
  | print
  /-- Assign the result of an operation. -/
  | arithmetic (operation : Operation)
  deriving DecidableEq, Repr

namespace Builtin

def all : List Builtin :=
  [create, delete, update, print,
    arithmetic .add, arithmetic .sub, arithmetic .mul, arithmetic .div]

/-- The name that scripts call the function by. -/
def name :
    Builtin →
    String
  | create => "create"
  | delete => "delete"
  | update => "update"
  | print => "print"
  | arithmetic operation => operation.name

def ofName?
    (name : String) :
    Option Builtin :=
  all.find? fun builtin => builtin.name == name

/-- The attributes without which the function fails, in the order in which they are looked for. -/
def attributes :
    Builtin →
    List Attribute
  | create => [.id, .value]
  | delete => [.id]
  | update => [.id, .value]
  | print => [.value]
  | arithmetic _ => [.id, .operand1, .operand2]

end Builtin

/-- A function composed of commands. -/
structure Composite where
  /-- The name under which the function was declared; failures are annotated with it. -/
  name : String
  commands : List Command
  deriving DecidableEq, Repr

/-- What a command can call. -/
inductive Function where
  | composite (body : Composite)
  | builtin (called : Builtin)
  deriving DecidableEq, Repr

namespace Function

def isBuiltin :
    Function →
    Bool
  | composite _ => false
  | builtin _ => true

/-- The function's own name. -/
def name :
    Function →
    String
  | composite body => body.name
  | builtin called => called.name

/-- The table in which every built-in name stands for its built-in function. -/
def builtins : Table Function :=
  Table.ofEntries (Builtin.all.map fun builtin => (builtin.name, .builtin builtin))

end Function

end FunctionScript
