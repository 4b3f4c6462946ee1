import FunctionScript.Text.Utf8

namespace FunctionScript

/-!
# Texts of the operating system

Arguments and paths are bytes that the operating system passes on as they are. Mostly
they are the UTF-8 form of a text, but they need not be.
-/

/-- An argument or a path. -/
structure OsText where
  bytes : ByteArray

namespace OsText

theorem data_inj
    {text other : OsText} :
    text.bytes.data = other.bytes.data ↔ text = other := by
  obtain ⟨⟨data⟩⟩ := text
  obtain ⟨⟨otherData⟩⟩ := other
  simp

instance : DecidableEq OsText :=
  fun _ _ => decidable_of_iff _ data_inj

def ofString
    (text : String) :
    OsText where
  bytes := text.toUTF8

def empty : OsText where
  bytes := .empty

/-- Whether a text begins with a dash, and goes on. -/
def isOption
    (text : OsText) :
    Bool :=
  text.bytes.data[0]? = some 0x2D && 1 < text.bytes.size

/-- A text is passed on in its UTF-8 form. -/
instance : Coe String OsText where
  coe := ofString

instance : Coe (List String) (List OsText) where
  coe := List.map ofString

/-- How the bytes are shown. -/
def display
    (text : OsText) :
    String :=
  Text.shown text.bytes

/-- The display of a text is the text. -/
@[simp]
theorem display_ofString
    (text : String) :
    (ofString text).display = text :=
  Text.shown_toUTF8 text

@[simp]
theorem ofString_inj
    {text other : String} :
    ofString text = ofString other ↔ text = other := by
  constructor
  · intro same
    have sameDisplay := congrArg display same
    rwa [display_ofString, display_ofString] at sameDisplay
  · exact congrArg ofString

end OsText

end FunctionScript
