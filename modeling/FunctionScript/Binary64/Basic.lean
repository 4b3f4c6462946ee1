namespace FunctionScript

/-!
# Binary64 numbers

A binary64 number is not a number, an infinity, or a sign with a finite
magnitude. The finite magnitudes are numbered from zero in ascending order, and
that number is at the same time the magnitude's bit pattern. Each of them is a
whole multiple of the smallest positive one, `2 ^ -1074`, which is the unit in
which magnitudes are measured here.
-/

-- Powers are those of the core library, whatever else is in scope.
attribute [local instance (high)] instPowNat

/-- How many finite magnitudes there are: 2047 exponents with `2 ^ 52` fractions each. -/
def finiteMagnitudes : Nat :=
  2047 * 2 ^ (52 : Nat)

/-- How many units one is. -/
def unitsPerOne : Nat :=
  2 ^ (1074 : Nat)

/-- A finite magnitude, given by its place in ascending order. -/
structure Magnitude where
  index : Nat
  isFinite : index < finiteMagnitudes
  deriving DecidableEq, Repr

namespace Magnitude

/-- The power of two by which the significand is scaled. -/
def scale
    (magnitude : Magnitude) :
    Nat :=
  magnitude.index / 2 ^ (52 : Nat) - 1

/-- The digits of the magnitude in base two, read as a whole number below `2 ^ 53`. -/
def significand
    (magnitude : Magnitude) :
    Nat :=
  if magnitude.index < 2 ^ (52 : Nat) then
    magnitude.index
  else
    2 ^ (52 : Nat) + magnitude.index % 2 ^ (52 : Nat)

/-- The magnitude as a number of units. -/
def units
    (magnitude : Magnitude) :
    Nat :=
  magnitude.significand * 2 ^ magnitude.scale

def zero : Magnitude :=
  ⟨0, by decide⟩

instance : Inhabited Magnitude :=
  ⟨zero⟩

end Magnitude

/-- A binary64 number; all encodings of "not a number" are one value. -/
inductive Binary64 where
  | nan
  | infinity (negative : Bool)
  | finite (negative : Bool) (magnitude : Magnitude)
  deriving DecidableEq, Repr

namespace Binary64

/-- The number with the given sign and either a finite magnitude or, without one, an infinity. -/
def ofMagnitude?
    (negative : Bool)
    (magnitude : Option Magnitude) :
    Binary64 :=
  match magnitude with
  | some magnitude => finite negative magnitude
  | none => infinity negative

/-- The number that a bit pattern encodes. -/
def ofBits
    (bits : UInt64) :
    Binary64 :=
  let negative := decide (2 ^ (63 : Nat) ≤ bits.toNat)
  let index := bits.toNat % 2 ^ (63 : Nat)
  if isFinite : index < finiteMagnitudes then
    finite negative ⟨index, isFinite⟩
  else if index = finiteMagnitudes then
    infinity negative
  else
    nan

def signBit
    (negative : Bool) :
    Nat :=
  if negative then 2 ^ (63 : Nat) else 0

/-- The bit pattern of a number, or nothing for "not a number", which has many. -/
def bits? :
    Binary64 →
    Option UInt64
  | nan => none
  | infinity negative => some (UInt64.ofNat (signBit negative + finiteMagnitudes))
  | finite negative magnitude => some (UInt64.ofNat (signBit negative + magnitude.index))

def isInfinite :
    Binary64 →
    Bool
  | infinity _ => true
  | nan | finite _ _ => false

/-- Whether the number is below zero or a negative zero. -/
def isNegative :
    Binary64 →
    Bool
  | nan => false
  | infinity negative => negative
  | finite negative _ => negative

/-- Zero, with a sign. -/
def zero
    (negative : Bool) :
    Binary64 :=
  finite negative Magnitude.zero

end Binary64

end FunctionScript
