import FunctionScript.Decimal.Layout
import FunctionScript.Json.Basic
import FunctionScript.Text.Quoted

namespace FunctionScript.Json

/-!
# Compact text of values

A message that shows a value writes it on one line without blanks. Integers are
written plainly, other numbers with their shortest digits and always a fraction
or an exponent, and strings escape a quote, a backslash and the control
characters only.
-/

/--
Shortest digits are written plainly from `0.00001` up to below ten to the
sixteenth, of two equally near ones the even one is taken.
-/
def numberLayout : Decimal.Layout where
  tie := .toEven
  leastPlain := -5
  greatestPlain := 15
  keepsFraction := true
  exponentWidth := 1

/-- The text of a finite number that is not an integer of the document. -/
def realText
    (negative : Bool)
    (magnitude : Magnitude) :
    List Char :=
  numberLayout.text negative magnitude

def numberText :
    Number →
    List Char
  | .integer value _ => Decimal.intText value
  | .real negative magnitude => realText negative magnitude

/-- How one character stands inside a string. -/
def stringChar
    (character : Char) :
    List Char :=
  match character with
  | '"' => ['\\', '"']
  | '\\' => ['\\', '\\']
  | '\x08' => ['\\', 'b']
  | '\x0c' => ['\\', 'f']
  | '\n' => ['\\', 'n']
  | '\r' => ['\\', 'r']
  | '\t' => ['\\', 't']
  | other =>
      if other.toNat < 0x20 then
        ['\\', 'u', '0', '0',
          Text.hexDigit (other.toNat / 16), Text.hexDigit (other.toNat % 16)]
      else
        [other]

/-- A string with its quotes. -/
def stringText
    (value : String) :
    List Char :=
  '"' :: value.toList.flatMap stringChar ++ ['"']

mutual

def compactChars :
    Json →
    List Char
  | null => ['n', 'u', 'l', 'l']
  | boolean true => ['t', 'r', 'u', 'e']
  | boolean false => ['f', 'a', 'l', 's', 'e']
  | number value => numberText value
  | string value => stringText value
  | array items => '[' :: compactItems items ++ [']']
  | object members => '\x7b' :: compactMembers members ++ ['\x7d']

def compactItems :
    List Json →
    List Char
  | [] => []
  | [item] => compactChars item
  | item :: rest => compactChars item ++ ',' :: compactItems rest

/-- The characters of members with commas between them. -/
def compactMembers :
    List (String × Json) →
    List Char
  | [] => []
  | [(name, value)] => stringText name ++ ':' :: compactChars value
  | (name, value) :: rest =>
      stringText name ++ ':' :: compactChars value ++ ',' :: compactMembers rest

end

def compactText
    (value : Json) :
    String :=
  String.ofList (compactChars value)

end FunctionScript.Json
