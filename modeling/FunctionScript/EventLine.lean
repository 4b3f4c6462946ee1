import FunctionScript.Machine

namespace FunctionScript.Event

/-!
# Log lines

An event is logged on a line of its own: the level, the wording, and then every
field as a name with a value. The level and the names of fields are styled for a
terminal. A text that comes from a script or from the command line stands in the
line as it is, so a line break in it breaks the line.
-/

/-- A text in a style of the terminal, with the plain style after it. -/
def styled
    (style text : String) :
    String :=
  "\x1b[" ++ style ++ "m" ++ text ++ "\x1b[0m"

/-- The word for a level, as wide as the longest, in the level's colour. -/
def Level.styledWord :
    Level →
    String
  | trace => styled "35" "TRACE"
  | debug => styled "34" "DEBUG"
  | warn => styled "33" " WARN"

/-- A field of a line: its name in italics, and its value behind a dim equals sign. -/
def styledField
    (field : String × String) :
    String :=
  styled "3" field.1 ++ styled "2" "=" ++ field.2

def fields :
    Event →
    List (String × String)
  | running path => [("path", path)]
  | ignoring name kind => [("name", name), ("kind", Text.quoted kind.name)]
  | merging functionCount variableCount =>
      [("functions", toString functionCount), ("variables", toString variableCount)]
  | dispatching function depth builtin =>
      [("function", function), ("depth", toString depth), ("builtin", toString builtin)]
  | binding name value => [("name", name), ("value", value)]

/-- The line in which an event is logged, without a line break at its end. -/
def line
    (event : Event) :
    String :=
  " ".intercalate (event.level.styledWord :: event.title :: event.fields.map styledField)

end FunctionScript.Event
