namespace FunctionScript.Text

/-!
# Reading bytes as UTF-8

Text arrives as bytes. Either all of them are the UTF-8 form of a text, or there
is a longest prefix that ends between two characters and after which no character
can be read. The length of that prefix is part of what is reported. Where bytes have
to be shown whatever they are, a replacement stands for each run of bytes that begin
a character and break off.
-/

/-- Number of bytes, counted from `start`, up to the first place where no character can be read. -/
def validPrefixLength
    (bytes : ByteArray)
    (start : Nat) :
    Nat :=
  match _found : bytes.utf8DecodeChar? start with
  | none => 0
  | some character =>
      character.utf8Size +
        validPrefixLength bytes (start + character.utf8Size)
termination_by bytes.size - start
decreasing_by
  have fits := ByteArray.le_size_of_utf8DecodeChar?_eq_some _found
  have positive := character.utf8Size_pos
  omega

/-- The text whose UTF-8 form the bytes are, or the length of their longest valid prefix. -/
def decodeUtf8
    (bytes : ByteArray) :
    Except Nat String :=
  match String.fromUTF8? bytes with
  | some text => .ok text
  | none => .error (validPrefixLength bytes 0)

/-- Whether a byte goes on with a character. -/
def isContinuation
    (byte : UInt8) :
    Bool :=
  0x80 ≤ byte && byte ≤ 0xBF

/-- Whether a character of three or four bytes may begin with the two bytes. -/
def beginsLongCharacter
    (first second : UInt8) :
    Bool :=
  if first = 0xE0 then 0xA0 ≤ second && second ≤ 0xBF
  else if first = 0xED then 0x80 ≤ second && second ≤ 0x9F
  else if first = 0xF0 then 0x90 ≤ second && second ≤ 0xBF
  else if first = 0xF4 then 0x80 ≤ second && second ≤ 0x8F
  else 0xE1 ≤ first && first ≤ 0xF3 && isContinuation second

/-- How many bytes begin a character that breaks off; where none can begin, one byte. -/
def brokenLength
    (bytes : ByteArray)
    (start : Nat) :
    Nat :=
  let byteAt (place : Nat) := bytes.data[place]?.getD 0
  if beginsLongCharacter (byteAt start) (byteAt (start + 1)) then
    if 0xF0 ≤ byteAt start && isContinuation (byteAt (start + 2)) then 3 else 2
  else
    1

theorem brokenLength_pos
    (bytes : ByteArray)
    (start : Nat) :
    0 < brokenLength bytes start := by
  simp only [brokenLength]
  repeat' split
  all_goals decide

/-- The characters that bytes show from `start` on, with replacements for what is none. -/
def shownCharacters
    (bytes : ByteArray)
    (start : Nat) :
    List Char :=
  if start < bytes.size then
    match bytes.utf8DecodeChar? start with
    | some character => character :: shownCharacters bytes (start + character.utf8Size)
    | none => '\uFFFD' :: shownCharacters bytes (start + brokenLength bytes start)
  else
    []
termination_by bytes.size - start
decreasing_by
  · have positive := character.utf8Size_pos
    omega
  · have positive := brokenLength_pos bytes start
    omega

/-- The text that bytes show. -/
def shown
    (bytes : ByteArray) :
    String :=
  match String.fromUTF8? bytes with
  | some text => text
  | none => String.ofList (shownCharacters bytes 0)

/-- The UTF-8 form of a text shows the text. -/
@[simp]
theorem shown_toUTF8
    (text : String) :
    shown text.toUTF8 = text := by
  have isValid : text.toUTF8.IsValidUTF8 := text.isValidUTF8
  rw [shown, String.fromUTF8?, dif_pos isValid]
  rfl

end FunctionScript.Text
