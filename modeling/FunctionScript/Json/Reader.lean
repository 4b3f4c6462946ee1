import FunctionScript.Json.NumberReader
import FunctionScript.Json.StringReader

namespace FunctionScript.Json

/-!
# Reading documents

A document is one value with blanks around it. Arrays and objects may be nested
127 deep; the bracket that would open one more is a fault. Reading looks one byte
ahead, which matters only for the place at which a fault is noticed.

A script is a document that has to be an object. Any other value is read
completely before it is refused, except that an array is refused at its bracket.
-/

/-- How deep arrays and objects may be nested. -/
def greatestDepth : Nat :=
  127

def isBlank
    (byte : UInt8) :
    Bool :=
  byte == 0x20 || byte == 0x0A || byte == 0x09 || byte == 0x0D

/-- What was read from the front of the bytes, and the bytes after it, of which there are fewer. -/
structure Taken
    (α : Type)
    (bytes : List UInt8) where
  value : α
  rest : List UInt8
  shorter : rest.length < bytes.length

/-- What a reader takes from the front of the bytes. -/
abbrev Reading
    (α : Type)
    (bytes : List UInt8) :
    Type :=
  Except Halt (Taken α bytes)

/-- The same value, taken from bytes of which there are at least as many. -/
def Taken.widen
    {few many : List UInt8}
    (taken : Taken α few)
    (fewer : few.length ≤ many.length) :
    Taken α many :=
  ⟨taken.value, taken.rest, Nat.lt_of_lt_of_le taken.shorter fewer⟩

theorem length_skipBlanks_le
    (bytes : List UInt8) :
    (bytes.dropWhile isBlank).length ≤ bytes.length :=
  (List.dropWhile_suffix isBlank).length_le

/-- Read the bytes of a word one by one. -/
def readWord :
    List UInt8 →
    List UInt8 →
    Except Halt (List UInt8)
  | [], bytes => .ok bytes
  | _ :: _, [] => .error (.upTo .endInValue [])
  | expected :: word, byte :: rest =>
      if byte = expected then
        readWord word rest
      else
        .error (.upTo .expectedWord rest)

theorem readWord_le
    {word bytes rest : List UInt8}
    (read : readWord word bytes = .ok rest) :
    rest.length ≤ bytes.length := by
  fun_induction readWord word bytes with
  | case1 =>
      cases read
      exact Nat.le_refl _
  | case2 => cases read
  | case3 _ _ _ inductionHypothesis =>
      have shorter := inductionHypothesis read
      simp only [List.length_cons]
      omega
  | case4 => cases read

/-- Read the rest of the word for a value, after its first letter. -/
def readConstant
    (first : UInt8)
    (rest word : List UInt8)
    (value : Json) :
    Reading Json (first :: rest) :=
  match read : readWord word rest with
  | .ok after => .ok ⟨value, after, Nat.lt_succ_of_le (readWord_le read)⟩
  | .error halt => .error halt

/-- Read items of an array, the first of which starts at the front, up to the closing bracket. -/
def readItems
    (readItem : (bytes : List UInt8) → Reading Json bytes)
    (before : List Json)
    (bytes : List UInt8) :
    Reading Json bytes :=
  match readItem bytes with
  | .error halt => .error halt
  | .ok item =>
      match skipped : item.rest.dropWhile isBlank with
      | [] => .error (.upTo .endInArray [])
      | 0x5D :: rest =>
          .ok ⟨.array (before.reverse ++ [item.value]), rest, by
            have fewer := length_skipBlanks_le item.rest
            have shorter := item.shorter
            rw [skipped, List.length_cons] at fewer
            omega⟩
      | 0x2C :: rest =>
          match next : rest.dropWhile isBlank with
          | [] => .error (.upTo .endInValue [])
          | 0x5D :: after => .error (.upTo .trailingComma after)
          | first :: after =>
              have fewer : (first :: after).length < bytes.length := by
                have fewer := length_skipBlanks_le item.rest
                have fewerStill := length_skipBlanks_le rest
                have shorter := item.shorter
                rw [skipped, List.length_cons] at fewer
                rw [next] at fewerStill
                omega
              match readItems readItem (item.value :: before) (first :: after) with
              | .error halt => .error halt
              | .ok taken => .ok (taken.widen (Nat.le_of_lt fewer))
      | _ :: rest => .error (.upTo .expectedArrayComma rest)
termination_by bytes.length

def readArray
    (readItem : (bytes : List UInt8) → Reading Json bytes)
    (bytes : List UInt8) :
    Reading Json bytes :=
  match skipped : bytes.dropWhile isBlank with
  | [] => .error (.upTo .endInArray [])
  | 0x5D :: rest =>
      .ok ⟨.array [], rest, by
        have fewer := length_skipBlanks_le bytes
        rw [skipped, List.length_cons] at fewer
        omega⟩
  | first :: rest =>
      match readItems readItem [] (first :: rest) with
      | .error halt => .error halt
      | .ok taken => .ok (taken.widen (skipped ▸ length_skipBlanks_le bytes))

/-- Read a member after its opening quote: a name, a colon and a value. -/
def readMember
    (readItem : (bytes : List UInt8) → Reading Json bytes)
    (bytes : List UInt8) :
    Reading (String × Json) bytes :=
  match named : readString .empty bytes with
  | .error halt => .error halt
  | .ok (name, afterName) =>
      match skipped : afterName.dropWhile isBlank with
      | [] => .error (.upTo .endInObject [])
      | 0x3A :: rest =>
          match readItem rest with
          | .error halt => .error halt
          | .ok item =>
              .ok ⟨(name, item.value), item.rest, by
                have shorter := readString_shorter named
                have fewer := length_skipBlanks_le afterName
                have fewerStill := item.shorter
                rw [skipped, List.length_cons] at fewer
                omega⟩
      | _ :: rest => .error (.upTo .expectedColon rest)

/-- Read members of an object, after the opening quote of the first, up to the closing brace. -/
def readMembers
    (readItem : (bytes : List UInt8) → Reading Json bytes)
    (before : List (String × Json))
    (bytes : List UInt8) :
    Reading (List (String × Json)) bytes :=
  match readMember readItem bytes with
  | .error halt => .error halt
  | .ok member =>
      match skipped : member.rest.dropWhile isBlank with
      | [] => .error (.upTo .endInObject [])
      | 0x7D :: rest =>
          .ok ⟨before.reverse ++ [member.value], rest, by
            have fewer := length_skipBlanks_le member.rest
            have shorter := member.shorter
            rw [skipped, List.length_cons] at fewer
            omega⟩
      | 0x2C :: rest =>
          match next : rest.dropWhile isBlank with
          | [] => .error (.upTo .endInValue [])
          | 0x7D :: after => .error (.upTo .trailingComma after)
          | 0x22 :: after =>
              have fewer : after.length < bytes.length := by
                have fewer := length_skipBlanks_le member.rest
                have fewerStill := length_skipBlanks_le rest
                have shorter := member.shorter
                rw [skipped, List.length_cons] at fewer
                rw [next, List.length_cons] at fewerStill
                omega
              match readMembers readItem (member.value :: before) after with
              | .error halt => .error halt
              | .ok taken => .ok (taken.widen (Nat.le_of_lt fewer))
          | _ :: after => .error (.upTo .keyNotString after)
      | _ :: rest => .error (.upTo .expectedObjectComma rest)
termination_by bytes.length

/-- Read the members of an object after its opening brace. -/
def readObject
    (readItem : (bytes : List UInt8) → Reading Json bytes)
    (bytes : List UInt8) :
    Reading (List (String × Json)) bytes :=
  match skipped : bytes.dropWhile isBlank with
  | [] => .error (.upTo .endInObject [])
  | 0x7D :: rest =>
      .ok ⟨[], rest, by
        have fewer := length_skipBlanks_le bytes
        rw [skipped, List.length_cons] at fewer
        omega⟩
  | 0x22 :: rest =>
      match readMembers readItem [] rest with
      | .error halt => .error halt
      | .ok taken =>
          .ok (taken.widen (by
            have fewer := length_skipBlanks_le bytes
            rw [skipped, List.length_cons] at fewer
            omega))
  | _ :: rest => .error (.upTo .keyNotString rest)

/-- Read a value that contains neither arrays nor objects and starts at the front. -/
def readScalar
    (first : UInt8)
    (rest : List UInt8) :
    Reading Json (first :: rest) :=
  match first with
  | 0x6E => readConstant 0x6E rest [0x75, 0x6C, 0x6C] .null
  | 0x74 => readConstant 0x74 rest [0x72, 0x75, 0x65] (.boolean true)
  | 0x66 => readConstant 0x66 rest [0x61, 0x6C, 0x73, 0x65] (.boolean false)
  | 0x22 =>
      match read : readString .empty rest with
      | .ok (text, after) =>
          .ok ⟨.string text, after, Nat.lt_succ_of_lt (readString_shorter read)⟩
      | .error halt => .error halt
  | first =>
      if first = 0x2D ∨ isDigit first then
        match read : readNumber (first :: rest) with
        | .ok (parsed, after) => .ok ⟨.number parsed, after, readNumber_shorter read⟩
        | .error halt => .error halt
      else
        .error (.upTo .expectedValue rest)

/-- Read a value, in which arrays and objects may be nested `depth` deep. -/
def readValue
    (depth : Nat)
    (bytes : List UInt8) :
    Reading Json bytes :=
  match skipped : bytes.dropWhile isBlank with
  | [] => .error (.upTo .endInValue [])
  | 0x5B :: rest =>
      match depth with
      | 0 => .error (.upTo .tooDeep rest)
      | depth + 1 =>
          match readArray (readValue depth) rest with
          | .error halt => .error halt
          | .ok taken =>
              .ok (taken.widen (by
                have fewer := length_skipBlanks_le bytes
                rw [skipped, List.length_cons] at fewer
                omega))
  | 0x7B :: rest =>
      match depth with
      | 0 => .error (.upTo .tooDeep rest)
      | depth + 1 =>
          match readObject (readValue depth) rest with
          | .error halt => .error halt
          | .ok taken =>
              .ok ⟨.object taken.value, taken.rest, by
                have fewer := length_skipBlanks_le bytes
                have shorter := taken.shorter
                rw [skipped, List.length_cons] at fewer
                omega⟩
  | first :: rest =>
      match readScalar first rest with
      | .error halt => .error halt
      | .ok taken => .ok (taken.widen (skipped ▸ length_skipBlanks_le bytes))

def endOfDocument
    (value : α)
    (bytes : List UInt8) :
    Except Halt α :=
  match bytes.dropWhile isBlank with
  | [] => .ok value
  | _ :: rest => .error (.upTo .trailingCharacters rest)

def readDocument
    (bytes : List UInt8) :
    Except Halt Json :=
  match readValue greatestDepth bytes with
  | .error halt => .error halt
  | .ok taken => endOfDocument taken.value taken.rest

/-- The halt at a scalar where an object had to stand. -/
def refuseScalar
    (value : Json)
    (rest : List UInt8) :
    Halt :=
  match value with
  | .boolean value => .upTo (.notAnObject (.boolean value)) rest
  | .number (.integer value _) => .including (.notAnObject (.integer value)) rest
  | .number (.real negative magnitude) =>
      .including (.notAnObject (.real negative magnitude)) rest
  | .string value => .upTo (.notAnObject (.string value)) rest
  | _ => .upTo (.notAnObject .null) rest

/-- Read a whole document that has to be an object; its members are listed as written. -/
def readMembersOfDocument
    (bytes : List UInt8) :
    Except Halt (List (String × Json)) :=
  match bytes.dropWhile isBlank with
  | [] => .error (.upTo .endInValue [])
  | 0x5B :: rest => .error (.upTo (.notAnObject .sequence) rest)
  | 0x7B :: rest =>
      match readObject (readValue (greatestDepth - 1)) rest with
      | .error halt => .error halt
      | .ok taken => endOfDocument taken.value taken.rest
  | first :: rest =>
      match readScalar first rest with
      | .error halt => .error halt
      | .ok taken => .error (refuseScalar taken.value taken.rest)

/-- The value that a whole document spells, or the fault at its place. -/
def ofDocument
    (document : ByteArray) :
    Except SyntaxError Json :=
  (readDocument document.toList).mapError (·.inDocument document.toList)

/-- The members that a document spells which has to be an object, or the fault at its place. -/
def membersOfDocument
    (document : ByteArray) :
    Except SyntaxError (List (String × Json)) :=
  (readMembersOfDocument document.toList).mapError (·.inDocument document.toList)

end FunctionScript.Json
