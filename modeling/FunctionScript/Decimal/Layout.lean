import FunctionScript.Decimal.Fixed
import FunctionScript.Decimal.Shortest

namespace FunctionScript.Decimal

/-!
# Laying out shortest digits

Once the digits of a number are chosen, a layout says how they are written: for
which exponents the point is placed among the digits, whether a whole number
keeps a fraction, and how many digits an exponent has at least. An exponent
always shows its sign.

Two ways of writing need no layout: with a point only, and in scientific form. That has
one digit before the point and an exponent in any case, with a sign only if it is negative.
-/

/-- How a number's shortest digits are laid out. -/
structure Layout where
  tie : Tie
  /-- The least exponent of the first digit that is written with a point only. -/
  leastPlain : Int
  /-- The greatest exponent of the first digit that is written with a point only. -/
  greatestPlain : Int
  /-- Whether a whole number ends in a point and a zero. -/
  keepsFraction : Bool
  /-- The least number of digits of an exponent. -/
  exponentWidth : Nat
  deriving DecidableEq, Repr

/-- The digits without the zeros at their end; one digit always stays. -/
def significantDigits
    (significand : Nat) :
    List Nat :=
  match (digits significand).reverse.dropWhile (· == 0) with
  | [] => [0]
  | kept => kept.reverse

/-- The digits after the point, with the point; nothing if there are none and none is kept. -/
def fractionText
    (keepsFraction : Bool)
    (fraction : List Nat) :
    List Char :=
  match fraction, keepsFraction with
  | [], false => []
  | [], true => ['.', '0']
  | fraction, _ => '.' :: fraction.map digitChar

/-- Digits whose first one stands at `10 ^ exponent`, written with a point only. -/
def plainText
    (keepsFraction : Bool)
    (digits : List Nat)
    (exponent : Int) :
    List Char :=
  if exponent < 0 then
    '0' :: fractionText keepsFraction
      (List.replicate (-exponent - 1).toNat 0 ++ digits)
  else
    let whole := exponent.toNat + 1
    (digits.take whole ++ List.replicate (whole - digits.length) 0).map digitChar ++
      fractionText keepsFraction (digits.drop whole)

/-- Digits whose first one stands at `10 ^ exponent`, written with an exponent. -/
def exponentText
    (exponentWidth : Nat)
    (digits : List Nat)
    (exponent : Int) :
    List Char :=
  let power := natText exponent.natAbs
  (digits.take 1).map digitChar ++
    fractionText false (digits.drop 1) ++
    ['e', if exponent < 0 then '-' else '+'] ++
    List.replicate (exponentWidth - power.length) '0' ++
    power

/-- Whether a first digit at `10 ^ exponent` is written with a point only. -/
def Layout.isPlain
    (layout : Layout)
    (exponent : Int) :
    Bool :=
  layout.leastPlain ≤ exponent && exponent ≤ layout.greatestPlain

def Layout.text
    (layout : Layout)
    (negative : Bool)
    (magnitude : Magnitude) :
    List Char :=
  let scaled := shortest layout.tie magnitude
  let digits := significantDigits scaled.significand
  let exponent := scaled.leadingExponent
  signText negative ++
    if layout.isPlain exponent then
      plainText layout.keepsFraction digits exponent
    else
      exponentText layout.exponentWidth digits exponent

/-- Digits written with a point only, whatever the exponent of the first one is. -/
def Scaled.plainText
    (scaled : Scaled) :
    List Char :=
  Decimal.plainText false (significantDigits scaled.significand) scaled.leadingExponent

/-- Digits with a point behind the first one, unless that is the only one. -/
def Scaled.mantissaText
    (scaled : Scaled) :
    List Char :=
  let digits := significantDigits scaled.significand
  (digits.take 1).map digitChar ++ fractionText false (digits.drop 1)

/-- Digits in scientific form. -/
def Scaled.scientificText
    (scaled : Scaled) :
    List Char :=
  scaled.mantissaText ++ 'e' :: intText scaled.leadingExponent

end FunctionScript.Decimal
