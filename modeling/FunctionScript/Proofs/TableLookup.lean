import FunctionScript.Table

namespace FunctionScript.Table

/-!
# Names in tables and listings

A listing pairs names with values. In a table that is made from a listing the last
value of each name stands; a table lists each of its names once, in ascending order,
so looking a name up in the listing is looking it up in the table. Writing an entry of
a table puts a value under a name, or takes away what is there.
-/

variable
  {table : Table α}
  {name : String}
  {value : α}

theorem getElem?_foldl_insert
    (entries : List (String × α))
    (table : Table α)
    (name : String) :
    (entries.foldl (fun table entry => table.insert entry.1 entry.2) table)[name]? =
      (entries.reverse.lookup name).or table[name]? := by
  induction entries generalizing table with
  | nil => simp
  | cons entry rest inductionHypothesis =>
      obtain ⟨first, value⟩ := entry
      rw [List.foldl_cons, inductionHypothesis, getElem?_insert_eq, List.reverse_cons,
        List.lookup_append, Option.or_assoc]
      by_cases same : first = name
      · simp [same]
      · simp [same, List.lookup_cons, beq_eq_false_iff_ne.mpr (Ne.symm same)]

/-- In a table made from a listing the last value of a name stands. -/
theorem getElem?_ofEntries
    (entries : List (String × α))
    (name : String) :
    (ofEntries entries)[name]? = entries.reverse.lookup name := by
  simp [ofEntries, getElem?_foldl_insert]

/-- Where names are distinct, looking one up finds exactly the values listed with it. -/
theorem lookup_eq_some_iff_mem
    {entries : List (String × α)}
    (distinct : (entries.map Prod.fst).Nodup) :
    entries.lookup name = some value ↔ (name, value) ∈ entries := by
  induction entries with
  | nil => simp
  | cons entry rest inductionHypothesis =>
      obtain ⟨first, listed⟩ := entry
      rw [List.map_cons, List.nodup_cons] at distinct
      obtain ⟨fresh, restDistinct⟩ := distinct
      by_cases same : name = first
      · subst same
        have notInRest : (name, value) ∉ rest := by
          intro member
          exact fresh (List.mem_map.mpr ⟨_, member, rfl⟩)
        simp [notInRest, eq_comm]
      · simp [List.lookup_cons, beq_eq_false_iff_ne.mpr same, same,
          inductionHypothesis restDistinct]

theorem nodup_names
    (table : Table α) :
    (table.toList.map Prod.fst).Nodup := by
  rw [List.Nodup, List.pairwise_map]
  refine table.distinct_keys_toList.imp ?_
  intro first second distinct same
  exact distinct (Std.LawfulEqCmp.compare_eq_iff_eq.mpr same)

theorem lookup_toList
    (table : Table α)
    (name : String) :
    table.toList.lookup name = table[name]? := by
  ext value
  rw [lookup_eq_some_iff_mem table.nodup_names,
    Std.ExtTreeMap.mem_toList_iff_getElem?_eq_some]

/-- A table lists its names in ascending order. -/
theorem ascending_names
    (table : Table α) :
    table.toList.Pairwise fun first second => first.1 < second.1 := by
  refine table.ordered_keys_toList.imp ?_
  intro first second before
  exact compareOfLessAndEq_eq_lt.mp before

section Entries

/-- The table with a value under a name, or with nothing there. -/
def withEntry
    (table : Table α)
    (name : String) :
    Option α →
    Table α
  | some value => table.insert name value
  | none => table.erase name

theorem getElem?_withEntry
    (table : Table α)
    (name sought : String)
    (entry : Option α) :
    (table.withEntry name entry)[sought]? =
      if name = sought then entry else table[sought]? := by
  cases entry with
  | some value => exact getElem?_insert_eq table name sought value
  | none => exact getElem?_erase_eq table name sought

/-- Entries of different names may be written in either order. -/
theorem withEntry_comm
    {first second : String}
    (distinct : first ≠ second)
    (table : Table α)
    (firstEntry secondEntry : Option α) :
    (table.withEntry first firstEntry).withEntry second secondEntry =
      (table.withEntry second secondEntry).withEntry first firstEntry := by
  apply Std.ExtTreeMap.ext_getElem?
  intro sought
  simp only [getElem?_withEntry]
  by_cases isFirst : first = sought
  · subst isFirst
    simp [Ne.symm distinct]
  · simp [isFirst]

end Entries

end FunctionScript.Table
