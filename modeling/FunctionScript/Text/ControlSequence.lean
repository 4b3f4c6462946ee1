namespace FunctionScript.Text

/-!
# Text without control sequences

A terminal obeys some characters instead of showing them: the controls, and the
sequences that an escape character opens. A text that is quoted from elsewhere
is shown without them, so it cannot steer the terminal that it is shown on.

The sequences are those of ECMA-48. Blanks are shown wherever a terminal would
obey them, so a blank may stand inside a sequence. It suspends the sequence: what
follows is shown until a control or a character outside ASCII, and a control
takes the sequence up again.
-/

/-- What a terminal is reading. -/
inductive Sequence where
  /-- Characters to show. -/
  | plain
  /-- What follows an escape character. -/
  | escape
  /-- The intermediate characters of a sequence without parameters. -/
  | intermediate
  /-- The parameters of a control sequence, up to its last character. -/
  | control
  /-- The first character of a device string. -/
  | device
  /-- The parameters of a device string. -/
  | deviceParameters
  /-- The intermediate characters of a device string. -/
  | deviceIntermediate
  /-- A string that the string terminator ends. -/
  | string
  /-- A command to the operating system, which the bell ends. -/
  | systemCommand
  deriving DecidableEq, Repr

def isControl
    (character : Char) :
    Bool :=
  character.toNat < 0x20 || character.toNat == 0x7F

/-- Whether a control moves to another place in the text: a tab, a new line or page, a return. -/
def isBlankControl
    (character : Char) :
    Bool :=
  character == '\t' || character == '\n' || character == '\x0c' || character == '\r'

/-- Whether the encoding of a character holds the byte that terminates a string. -/
def holdsTerminator
    (character : Char) :
    Bool :=
  (String.utf8EncodeChar character).contains 0x9C

namespace Sequence

/-- What is read after a visible character of ASCII. -/
def afterVisible
    (sequence : Sequence)
    (character : Char) :
    Sequence :=
  match sequence with
  | plain => plain
  | escape =>
      if character < '0' then
        intermediate
      else
        match character with
        | '[' => control
        | ']' => systemCommand
        | 'P' => device
        | 'X' | '^' | '_' => string
        | _ => plain
  | intermediate => if character < '0' then intermediate else plain
  | control => if character < '@' then control else plain
  | device =>
      if character < '0' then
        deviceIntermediate
      else if character < '@' then
        deviceParameters
      else
        string
  | deviceParameters =>
      if character < '0' then
        deviceIntermediate
      else if character < '<' then
        deviceParameters
      else
        string
  | deviceIntermediate => if character < '0' then deviceIntermediate else string
  | string => string
  | systemCommand => systemCommand

/-- Whether a terminal obeys controls where it reads, instead of taking them as text. -/
def obeysControls :
    Sequence →
    Bool
  | plain | escape | intermediate | control => true
  | _ => false

/-- What is read after a control: cancel and substitute end everything, escape begins anew. -/
def afterControl
    (sequence : Sequence)
    (character : Char) :
    Sequence :=
  match character with
  | '\x18' | '\x1a' => plain
  | '\x1b' => escape
  | '\x07' => if sequence = systemCommand then plain else sequence
  | _ => sequence

/-- What is read after a character outside ASCII, of which a string may see its terminator. -/
def afterWide
    (sequence : Sequence)
    (character : Char) :
    Sequence :=
  if sequence = string && holdsTerminator character then plain else sequence

/-- What is read after a character, and whether the character is shown. -/
def next
    (sequence : Sequence)
    (character : Char) :
    Sequence × Bool :=
  if isControl character then
    (sequence.afterControl character, sequence.obeysControls && isBlankControl character)
  else if character.toNat < 0x80 then
    (sequence.afterVisible character, sequence == plain)
  else
    (sequence.afterWide character, sequence == plain)

end Sequence

/-- What a terminal is reading, and whether text is being shown all the same. -/
structure Reading where
  sequence : Sequence := .plain
  showing : Bool := false
  deriving DecidableEq, Repr

namespace Reading

/-- Read one character, and tell whether it is shown. -/
def step
    (reading : Reading)
    (character : Char) :
    Reading × Bool :=
  if reading.showing && !isControl character then
    if character.toNat < 0x80 then
      (reading, true)
    else
      (⟨.plain, true⟩, true)
  else
    let (sequence, shown) := reading.sequence.next character
    (⟨sequence, shown⟩, shown)

def shown
    (reading : Reading) :
    List Char →
    List Char
  | [] => []
  | character :: rest =>
      let (after, isShown) := reading.step character
      if isShown then
        character :: after.shown rest
      else
        after.shown rest

end Reading

/-- The part of a text that a terminal shows. -/
def shownText
    (text : String) :
    String :=
  String.ofList (Reading.shown {} text.toList)

end FunctionScript.Text
