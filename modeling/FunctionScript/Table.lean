import Std.Data.ExtTreeMap

namespace FunctionScript

/-!
# Tables of names

Variables, functions and the members of a document are all kept by name. A
table holds each name at most once, and two tables with the same entries are
equal: nothing remembers the order in which names were written. Listing a table
goes through its names in ascending order, character by character, which is also
the order of their UTF-8 bytes.
-/

/-- Values kept by name. -/
abbrev Table (α : Type) : Type :=
  Std.ExtTreeMap String α compare

namespace Table

/-- The table of the listed entries, in which a later entry replaces an earlier one. -/
def ofEntries
    (entries : List (String × α)) :
    Table α :=
  entries.foldl (fun table entry => table.insert entry.1 entry.2) ∅

/-- Looking a name up after an insertion finds the new value at its name only. -/
theorem getElem?_insert_eq
    (table : Table α)
    (name sought : String)
    (value : α) :
    (table.insert name value)[sought]? =
      if name = sought then some value else table[sought]? := by
  simp [Std.ExtTreeMap.getElem?_insert]

/-- Looking a name up after a removal finds nothing at the removed name. -/
theorem getElem?_erase_eq
    (table : Table α)
    (name sought : String) :
    (table.erase name)[sought]? =
      if name = sought then none else table[sought]? := by
  simp [Std.ExtTreeMap.getElem?_erase]

end Table

end FunctionScript
