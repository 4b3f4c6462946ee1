import FunctionScript.Json.Fault
import FunctionScript.Text.Utf8

namespace FunctionScript.Json

/-!
# Reading strings of a document

A string is read byte by byte up to its closing quote, escapes being replaced by
the UTF-8 form of what they stand for. Only then are the bytes read as UTF-8, so
a fault inside the string wins over bytes that are no text.
-/

def hexValue?
    (byte : UInt8) :
    Option Nat :=
  if 0x30 ≤ byte ∧ byte ≤ 0x39 then
    some (byte.toNat - 0x30)
  else if 0x41 ≤ byte ∧ byte ≤ 0x46 then
    some (byte.toNat - 0x37)
  else if 0x61 ≤ byte ∧ byte ≤ 0x66 then
    some (byte.toNat - 0x57)
  else
    none

/-- The value of four hexadecimal digits. -/
def hexValue4?
    (first second third fourth : UInt8) :
    Option Nat := do
  let first ← hexValue? first
  let second ← hexValue? second
  let third ← hexValue? third
  let fourth ← hexValue? fourth
  return ((first * 16 + second) * 16 + third) * 16 + fourth

/-- The byte that a one-letter escape stands for. -/
def escapedByte? :
    UInt8 →
    Option UInt8
  | 0x22 => some 0x22
  | 0x5C => some 0x5C
  | 0x2F => some 0x2F
  | 0x62 => some 0x08
  | 0x66 => some 0x0C
  | 0x6E => some 0x0A
  | 0x72 => some 0x0D
  | 0x74 => some 0x09
  | _ => none

def isHighSurrogate
    (unit : Nat) :
    Bool :=
  0xD800 ≤ unit && unit < 0xDC00

def isLowSurrogate
    (unit : Nat) :
    Bool :=
  0xDC00 ≤ unit && unit < 0xE000

/-- The code point of a pair of UTF-16 units. -/
def pairedCodePoint
    (high low : Nat) :
    Nat :=
  0x10000 + (high - 0xD800) * 0x400 + (low - 0xDC00)

/-- The bytes read so far with the UTF-8 form of a code point behind them. -/
def pushCodePoint
    (decoded : ByteArray)
    (codePoint : Nat) :
    ByteArray :=
  (String.utf8EncodeChar (Char.ofNat codePoint)).foldl ByteArray.push decoded

/-- Four hexadecimal digits at the front, and the bytes after them. -/
def readHex4
    (bytes : List UInt8) :
    Except Halt (Nat × List UInt8) :=
  match bytes with
  | first :: second :: third :: fourth :: rest =>
      match hexValue4? first second third fourth with
      | some unit => .ok (unit, rest)
      | none => .error (.upTo .invalidEscape rest)
  | _ => .error (.upTo .endInString [])

/-- The escape of a second unit, which has to follow the escape of a first one. -/
def readLowSurrogate :
    List UInt8 →
    Except Halt (Nat × List UInt8)
  | [] => .error (.upTo .endInString [])
  | 0x5C :: [] => .error (.upTo .endInString [])
  | 0x5C :: 0x75 :: rest => do
      let (unit, rest) ← readHex4 rest
      if isLowSurrogate unit then
        return (unit, rest)
      else
        throw (.upTo .loneSurrogate rest)
  | 0x5C :: _ :: rest => .error (.upTo .endOfSurrogatePair rest)
  | _ :: rest => .error (.upTo .endOfSurrogatePair rest)

/-- The code point of an escape after its letter `u`. -/
def readCodePoint
    (bytes : List UInt8) :
    Except Halt (Nat × List UInt8) := do
  let (unit, rest) ← readHex4 bytes
  if isLowSurrogate unit then
    throw (.upTo .loneSurrogate rest)
  else if isHighSurrogate unit then
    let (low, rest) ← readLowSurrogate rest
    return (pairedCodePoint unit low, rest)
  else
    return (unit, rest)

theorem readHex4_shorter
    {bytes rest : List UInt8}
    {unit : Nat}
    (read : readHex4 bytes = .ok (unit, rest)) :
    rest.length < bytes.length := by
  unfold readHex4 at read
  split at read
  · split at read
    · cases read
      simp only [List.length_cons]
      omega
    · cases read
  · cases read

/-- The second escape of a pair leaves fewer bytes. -/
theorem readLowSurrogate_shorter
    {bytes rest : List UInt8}
    {unit : Nat}
    (read : readLowSurrogate bytes = .ok (unit, rest)) :
    rest.length < bytes.length := by
  unfold readLowSurrogate at read
  split at read
  · cases read
  · cases read
  · rename_i following
    cases digits : readHex4 following with
    | error halt => simp [digits, bind, Except.bind] at read
    | ok result =>
        have shorter := readHex4_shorter digits
        simp only [digits, bind, Except.bind] at read
        split at read
        · simp only [pure, Except.pure, Except.ok.injEq, Prod.mk.injEq] at read
          simp only [List.length_cons, ← read.2]
          omega
        · cases read
  · cases read
  · cases read

theorem readCodePoint_shorter
    {bytes rest : List UInt8}
    {codePoint : Nat}
    (read : readCodePoint bytes = .ok (codePoint, rest)) :
    rest.length < bytes.length := by
  unfold readCodePoint at read
  cases digits : readHex4 bytes with
  | error halt => simp [digits, bind, Except.bind] at read
  | ok result =>
      have shorter := readHex4_shorter digits
      simp only [digits, bind, Except.bind] at read
      split at read
      · cases read
      · split at read
        · cases second : readLowSurrogate result.2 with
          | error halt => simp [second] at read
          | ok pair =>
              have shorterStill := readLowSurrogate_shorter second
              simp only [second, pure, Except.pure, Except.ok.injEq, Prod.mk.injEq] at read
              rw [← read.2]
              omega
        · simp only [pure, Except.pure, Except.ok.injEq, Prod.mk.injEq] at read
          rw [← read.2]
          exact shorter

/-- The text of the bytes up to the closing quote, after which `rest` follows. -/
def finishString
    (decoded : ByteArray)
    (rest : List UInt8) :
    Except Halt (String × List UInt8) :=
  match Text.decodeUtf8 decoded with
  | .ok text => .ok (text, rest)
  | .error valid =>
      .error { Halt.upTo .invalidUnicode rest with columnsBack := decoded.size - valid }

/-- Read a string after its opening quote. -/
def readString
    (decoded : ByteArray) :
    List UInt8 →
    Except Halt (String × List UInt8)
  | [] => .error (.upTo .endInString [])
  | 0x22 :: rest => finishString decoded rest
  | 0x5C :: [] => .error (.upTo .endInString [])
  | 0x5C :: 0x75 :: rest =>
      match _read : readCodePoint rest with
      | .ok (codePoint, rest) => readString (pushCodePoint decoded codePoint) rest
      | .error halt => .error halt
  | 0x5C :: letter :: rest =>
      match escapedByte? letter with
      | some byte => readString (decoded.push byte) rest
      | none => .error (.upTo .invalidEscape rest)
  | byte :: rest =>
      if byte < 0x20 then
        .error (.upTo .controlCharacter rest)
      else
        readString (decoded.push byte) rest
termination_by bytes => bytes.length
decreasing_by
  · have shorter := readCodePoint_shorter _read
    simp only [List.length_cons]
    omega
  · simp only [List.length_cons]
    omega
  · simp only [List.length_cons]
    omega

theorem readString_shorter
    {decoded : ByteArray}
    {bytes rest : List UInt8}
    {text : String}
    (read : readString decoded bytes = .ok (text, rest)) :
    rest.length < bytes.length := by
  fun_induction readString decoded bytes with
  | case1 => cases read
  | case2 decoded following =>
      unfold finishString at read
      split at read
      · cases read
        simp
      · cases read
  | case3 => cases read
  | case4 decoded following codePoint after pair inductionHypothesis =>
      have shorter := readCodePoint_shorter pair
      have shorterStill := inductionHypothesis read
      simp only [List.length_cons]
      omega
  | case5 => cases read
  | case6 decoded letter following _ byte _ inductionHypothesis =>
      have shorter := inductionHypothesis read
      simp only [List.length_cons]
      omega
  | case7 => cases read
  | case8 => cases read
  | case9 decoded byte following _ _ _ _ _ inductionHypothesis =>
      have shorter := inductionHypothesis read
      simp only [List.length_cons]
      omega

end FunctionScript.Json
