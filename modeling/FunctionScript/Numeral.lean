import FunctionScript.Binary64.Arithmetic
import FunctionScript.Decimal.Layout
import FunctionScript.Decimal.Literal

namespace FunctionScript.Numeral

/-!
# Numbers as text

Every variable holds a text, and a text is numeric if it reads as a number. Three
renderings lead back from numbers to text: results of arithmetic are stored with
six decimal places, printed numbers have four, and numbers of a document keep
their shortest digits.
-/

/-- The number that a text spells; a decimal beyond the finite range spells an infinity. -/
def parse?
    (text : String) :
    Option Binary64 :=
  (Decimal.readLiteral? text.toList).map Decimal.Literal.value

/-- The characters behind a sign, if there is one. -/
def withoutSign :
    List Char →
    List Char
  | '+' :: rest => rest
  | '-' :: rest => rest
  | characters => characters

/-- Whether a text is a word for infinity, in any letter case, with at most one sign. -/
def spellsInfinity
    (text : String) :
    Bool :=
  let word := Decimal.lowerCase (withoutSign text.toList)
  word = "inf".toList || word = "infinity".toList

/-- The number that a text reads as; a decimal beyond the finite range is no number. -/
def read?
    (text : String) :
    Option Binary64 :=
  match parse? text with
  | none => none
  | some number =>
      if number.isInfinite && !spellsInfinity text then
        none
      else
        some number

def storedPlaces : Nat :=
  6

def printedPlaces : Nat :=
  4

/-- A number with a fixed number of decimal places, or the word for a number that is not finite. -/
def fixed
    (places : Nat) :
    Binary64 →
    String
  | .nan => "NaN"
  | .infinity false => "+Inf"
  | .infinity true => "-Inf"
  | .finite negative magnitude =>
      String.ofList (Decimal.fixed places negative magnitude)

/-- The text under which a result of arithmetic is stored. -/
def stored
    (number : Binary64) :
    String :=
  fixed storedPlaces number

/-- The text in which a number is printed. -/
def printed
    (number : Binary64) :
    String :=
  fixed printedPlaces number

/-- A finite number with its shortest digits as they are written, or the word for another one. -/
def written
    (write : Decimal.Scaled → List Char) :
    Binary64 →
    String
  | .nan => "NaN"
  | .infinity false => "inf"
  | .infinity true => "-inf"
  | .finite negative magnitude =>
      String.ofList
        (Decimal.signText negative ++ write (Decimal.shortest .upward magnitude))

def plain : Binary64 → String :=
  written Decimal.Scaled.plainText

def scientific : Binary64 → String :=
  written Decimal.Scaled.scientificText

/-- What stands before and behind the first mark of a kind. -/
def splitOnce?
    (mark : Char)
    (characters : List Char) :
    Option (List Char × List Char) :=
  match characters.dropWhile (· != mark) with
  | [] => none
  | _ :: behind => some (characters.takeWhile (· != mark), behind)

/-- Digits with an exponent that shows its sign, and has at least two digits. -/
def withExponent
    (mantissa : List Char)
    (exponent : Int) :
    String :=
  let sign := if exponent < 0 then '-' else '+'
  let power := Decimal.natText exponent.natAbs
  String.ofList
    (mantissa ++ ['e', sign] ++ List.replicate (2 - power.length) '0' ++ power)

/--
The shortest text that reads as the number. It is the plain one, unless the scientific one
has an exponent below -4, or from 6 on: then that is shown, with its sign and two digits.
-/
def shortest
    (number : Binary64) :
    String :=
  let text := scientific number
  match splitOnce? 'e' text.toList with
  | none => text
  | some (mantissa, exponentText) =>
      match Decimal.readInt32? exponentText with
      | none => plain number
      | some exponent =>
          if -4 ≤ exponent ∧ exponent < 6 then
            plain number
          else
            withExponent mantissa exponent

end FunctionScript.Numeral
