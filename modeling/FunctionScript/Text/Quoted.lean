import FunctionScript.Text.Printable

namespace FunctionScript.Text

/-!
# Quoted text

Messages name things in double quotes. Inside the quotes a quote and a backslash
take a backslash, four control characters have a letter of their own, and every
other hidden character is written by its code point, so a quoted text never
breaks the line it stands on.
-/

def hexDigit
    (value : Nat) :
    Char :=
  if value < 10 then
    Char.ofNat (0x30 + value)
  else
    Char.ofNat (0x57 + value)

/-- The hexadecimal digits of a number, without leading zeros. -/
def hexDigits
    (value : Nat) :
    List Char :=
  if value < 16 then
    [hexDigit value]
  else
    hexDigits (value / 16) ++ [hexDigit (value % 16)]

/-- How one character is written between quotes. -/
def quotedChar
    (character : Char) :
    List Char :=
  match character with
  | '\x00' => ['\\', '0']
  | '\t' => ['\\', 't']
  | '\n' => ['\\', 'n']
  | '\r' => ['\\', 'r']
  | '"' => ['\\', '"']
  | '\\' => ['\\', '\\']
  | other =>
      if isHidden other then
        ['\\', 'u', '\x7b'] ++ hexDigits other.toNat ++ ['\x7d']
      else
        [other]

def quoted
    (text : String) :
    String :=
  String.ofList ('"' :: text.toList.flatMap quotedChar ++ ['"'])

end FunctionScript.Text
