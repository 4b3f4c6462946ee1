import FunctionScript.Json.Compact

namespace FunctionScript.Json

/-!
# Faults of a document

Reading a document stops at its first fault. A fault says what was wrong; where
reading stopped is told by the number of bytes that had not been looked at yet,
and becomes a line and a column once the whole document is at hand.
-/

/-- A whole document that is not an object. -/
inductive Unexpected where
  | null
  | boolean (value : Bool)
  | integer (value : Int)
  | real (negative : Bool) (magnitude : Magnitude)
  | string (value : String)
  | sequence
  deriving DecidableEq, Repr

/-- How a document that is not an object is described. -/
def Unexpected.description :
    Unexpected →
    String
  | null => "null"
  | boolean value => "boolean `" ++ (if value then "true" else "false") ++ "`"
  | integer value => "integer `" ++ String.ofList (Decimal.intText value) ++ "`"
  | real negative magnitude =>
      "floating point `" ++ String.ofList (realText negative magnitude) ++ "`"
  | string value => "string " ++ Text.quoted value
  | sequence => "sequence"

inductive Fault where
  | endInValue
  | endInString
  | endInArray
  | endInObject
  | expectedValue
  | expectedWord
  | invalidNumber
  | numberOutOfRange
  | controlCharacter
  | invalidEscape
  | loneSurrogate
  | endOfSurrogatePair
  | invalidUnicode
  | expectedArrayComma
  | expectedObjectComma
  | expectedColon
  | trailingComma
  | keyNotString
  | tooDeep
  | trailingCharacters
  | notAnObject (found : Unexpected)
  deriving DecidableEq, Repr

def Fault.message :
    Fault →
    String
  | endInValue => "EOF while parsing a value"
  | endInString => "EOF while parsing a string"
  | endInArray => "EOF while parsing a list"
  | endInObject => "EOF while parsing an object"
  | expectedValue => "expected value"
  | expectedWord => "expected ident"
  | invalidNumber => "invalid number"
  | numberOutOfRange => "number out of range"
  | controlCharacter =>
      "control character (\\u0000-\\u001F) found while parsing a string"
  | invalidEscape => "invalid escape"
  | loneSurrogate => "lone leading surrogate in hex escape"
  | endOfSurrogatePair => "unexpected end of hex escape"
  | invalidUnicode => "invalid unicode code point"
  | expectedArrayComma => "expected `,` or `]`"
  | expectedObjectComma => "expected `,` or `\x7d`"
  | expectedColon => "expected `:`"
  | trailingComma => "trailing comma"
  | keyNotString => "key must be a string"
  | tooDeep => "recursion limit exceeded"
  | trailingCharacters => "trailing characters"
  | notAnObject found => "invalid type: " ++ found.description ++ ", expected a map"

/-- Where reading stopped, and why. -/
structure Halt where
  fault : Fault
  /-- How many bytes at the end had not been looked at. -/
  unread : Nat
  /-- How many columns before the last byte looked at the fault lies. -/
  columnsBack : Nat := 0
  deriving DecidableEq, Repr

/-- A halt after everything before `rest` has been looked at. -/
def Halt.upTo
    (fault : Fault)
    (rest : List UInt8) :
    Halt where
  fault := fault
  unread := rest.length

/-- A halt after the first byte of `rest`, if there is one, has been looked at too. -/
def Halt.including
    (fault : Fault)
    (rest : List UInt8) :
    Halt where
  fault := fault
  unread := rest.length - 1

/-- A fault with the line and column at which it was noticed, counted from one and from zero. -/
structure SyntaxError where
  fault : Fault
  line : Nat
  column : Nat
  deriving DecidableEq, Repr

/-- The line on which the bytes end, and how many bytes of it there are. -/
def position
    (bytes : List UInt8) :
    Nat × Nat :=
  bytes.foldl
    (fun (line, column) (byte : UInt8) =>
      if byte = 0x0A then (line + 1, 0) else (line, column + 1))
    (1, 0)

/-- The fault at its place in the document. -/
def Halt.inDocument
    (halt : Halt)
    (document : List UInt8) :
    SyntaxError :=
  let (line, column) := position (document.take (document.length - halt.unread))
  ⟨halt.fault, line, column - halt.columnsBack⟩

def SyntaxError.message
    (error : SyntaxError) :
    String :=
  error.fault.message ++
    " at line " ++ String.ofList (Decimal.natText error.line) ++
    " column " ++ String.ofList (Decimal.natText error.column)

end FunctionScript.Json
