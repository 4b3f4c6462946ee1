import FunctionScript.Binary64.Nearest

namespace FunctionScript.Decimal

/-!
# Reading numbers

A number is written as an optional sign, digits with an optional point among or
around them, and an optional exponent; at least one digit is needed before the
exponent, and nothing may stand around the number. Instead of digits there may be
one of the words `inf`, `infinity` and `nan`, in any letter case.

The digits of an exponent count until the exponent has reached 65536. Those after
that may stand there and change nothing, so an exponent stays small however long
it is written.
-/

/-- What a number's text says, before it is rounded. -/
inductive Literal where
  | nan
  | infinity (negative : Bool)
  | decimal (negative : Bool) (significand : Nat) (exponent : Int)
  deriving DecidableEq, Repr

def isDigit
    (character : Char) :
    Bool :=
  '0' ≤ character && character ≤ '9'

def splitSign :
    List Char →
    Bool × List Char
  | '-' :: rest => (true, rest)
  | '+' :: rest => (false, rest)
  | rest => (false, rest)

/-- The exponent at which further digits no longer count. -/
def exponentLimit : Nat :=
  65536

/-- The exponent that a run of digit characters spells, up to the digit that reaches the limit. -/
def limitedExponent
    (digits : List Char) :
    Nat :=
  digits.foldl
    (fun exponent digit =>
      if exponent < exponentLimit then 10 * exponent + digitValue digit else exponent)
    0

/-- Read an exponent's digits, which are the whole text and at least one. -/
def readExponentDigits?
    (characters : List Char) :
    Option Nat :=
  if characters ≠ [] ∧ characters.all isDigit then
    some (limitedExponent characters)
  else
    none

/-- Read what may follow the digits: nothing, or an exponent up to the end. -/
def readExponent? :
    List Char →
    Option Int
  | [] => some 0
  | mark :: rest =>
      if mark = 'e' ∨ mark = 'E' then
        let (negative, digits) := splitSign rest
        (readExponentDigits? digits).map fun exponent =>
          if negative then -(exponent : Int) else exponent
      else
        none

/-- Split the digits after a point off the front, if there is a point. -/
def splitFraction :
    List Char →
    List Char × List Char
  | '.' :: rest => (rest.takeWhile isDigit, rest.dropWhile isDigit)
  | rest => ([], rest)

/-- Read digits with an optional point and an optional exponent. -/
def readDecimal?
    (negative : Bool)
    (characters : List Char) :
    Option Literal :=
  let whole := characters.takeWhile isDigit
  let (fraction, rest) := splitFraction (characters.dropWhile isDigit)
  if whole ++ fraction = [] then
    none
  else
    (readExponent? rest).map fun exponent =>
      .decimal negative (readDigits (whole ++ fraction)) (exponent - fraction.length)

/-- The word in lower case; letters outside ASCII are left alone. -/
def lowerCase
    (characters : List Char) :
    List Char :=
  characters.map Char.toLower

def readLiteral?
    (characters : List Char) :
    Option Literal :=
  let (negative, unsigned) := splitSign characters
  let word := lowerCase unsigned
  if word = ['i', 'n', 'f'] ∨ word = ['i', 'n', 'f', 'i', 'n', 'i', 't', 'y'] then
    some (.infinity negative)
  else if word = ['n', 'a', 'n'] then
    some .nan
  else
    readDecimal? negative unsigned

/-- The binary64 number of a literal; a decimal beyond the finite range becomes an infinity. -/
def Literal.value :
    Literal →
    Binary64
  | .nan => .nan
  | .infinity negative => .infinity negative
  | .decimal negative significand exponent =>
      .ofMagnitude? negative (Magnitude.ofDecimal? significand exponent)

/-- Read an integer of 32 bits: an optional sign and digits, up to the end. -/
def readInt32?
    (characters : List Char) :
    Option Int :=
  let (negative, digits) := splitSign characters
  if digits ≠ [] ∧ digits.all isDigit then
    let value : Int :=
      if negative then -(readDigits digits : Int) else readDigits digits
    if -2147483648 ≤ value ∧ value < 2147483648 then
      some value
    else
      none
  else
    none

end FunctionScript.Decimal
