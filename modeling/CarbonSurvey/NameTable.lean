import Std.Data.ExtTreeMap

/-! # Tables keyed by name

Models, participants' answers and statistics are tables from names to values. Names come out in
the order of their code points, whatever order they went in, and two tables with the same contents
are equal.
-/

namespace CarbonSurvey

abbrev NameTable (α : Type) := Std.ExtTreeMap String α

namespace NameTable

variable {α β : Type}

/-- The table of some rows, where a later row replaces an earlier one of the same name. -/
def ofRows (rows : List (String × α)) : NameTable α :=
  rows.foldl (fun table row => table.insert row.1 row.2) ∅

@[simp]
theorem ofRows_nil : ofRows ([] : List (String × α)) = ∅ := rfl

@[simp]
theorem ofRows_append_singleton (rows : List (String × α)) (name : String) (value : α) :
    ofRows (rows ++ [(name, value)]) = (ofRows rows).insert name value := by
  simp [ofRows]

end NameTable

end CarbonSurvey
