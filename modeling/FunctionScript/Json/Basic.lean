import FunctionScript.Binary64.Arithmetic
import FunctionScript.Table

namespace FunctionScript

/-!
# JSON values

A document is read as a tree that lists the members of an object as they were
written. Its canonical form lists them in ascending order of their names, each
name once, with the value that was written last.
-/

-- Powers are those of the core library, whatever else is in scope.
attribute [local instance (high)] instPowNat

/--
A number of a document: an integer of at most 64 bits is kept as it is, any other
number is a finite binary64 number.
-/
inductive Json.Number where
  | integer (value : Int) (inRange : -(2 ^ (63 : Nat)) ≤ value ∧ value < 2 ^ (64 : Nat))
  | real (negative : Bool) (magnitude : Magnitude)
  deriving DecidableEq, Repr

def Json.Number.toBinary64 :
    Json.Number →
    Binary64
  | .integer value _ => Binary64.ofInt value
  | .real negative magnitude => .finite negative magnitude

/-- A JSON value; the members of an object are listed in the order in which they stand. -/
inductive Json where
  | null
  | boolean (value : Bool)
  | number (value : Json.Number)
  | string (value : String)
  | array (items : List Json)
  | object (members : List (String × Json))
  deriving Repr

namespace Json

/-- The six kinds of value. -/
inductive Kind where
  | null
  | boolean
  | number
  | string
  | array
  | object
  deriving DecidableEq, Repr

def Kind.name :
    Kind →
    String
  | null => "null"
  | boolean => "boolean"
  | number => "number"
  | string => "string"
  | array => "array"
  | object => "object"

def kind :
    Json →
    Kind
  | null => .null
  | boolean _ => .boolean
  | number _ => .number
  | string _ => .string
  | array _ => .array
  | object _ => .object

mutual

/-- The value with the members of every object in ascending order, the last of each name kept. -/
def canonical :
    Json →
    Json
  | array items => array (canonicalItems items)
  | object members => object (Table.ofEntries (canonicalMembers members)).toList
  | null => null
  | boolean value => boolean value
  | number value => number value
  | string value => string value

def canonicalItems :
    List Json →
    List Json
  | [] => []
  | item :: rest => canonical item :: canonicalItems rest

def canonicalMembers :
    List (String × Json) →
    List (String × Json)
  | [] => []
  | (name, value) :: rest => (name, canonical value) :: canonicalMembers rest

end

/-- The members of a document by name, their values in canonical form. -/
def declarations
    (members : List (String × Json)) :
    Table Json :=
  Table.ofEntries (canonicalMembers members)

end Json

end FunctionScript
