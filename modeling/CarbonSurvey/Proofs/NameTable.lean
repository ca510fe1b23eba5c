import CarbonSurvey.NameTable
import CarbonSurvey.Proofs.Text.Bytes
import Mathlib.Data.List.Induction
import Mathlib.Data.List.Nodup

/-! # Tables and their rows

A table of rows has their names (`mem_ofRows`), and under each of them what the last row of the name says
(`getElem?_ofRows_last`). A table of rows with distinct names has exactly these rows (`getElem?_ofRows`), and the rows
of a table, in any order, are such rows (`nodup_names`, `mem_rows`). They come out in the order of the bytes of their names
(`names_in_byte_order`).
-/

namespace CarbonSurvey.NameTable

variable {α : Type} {rows : List (String × α)} {table : NameTable α}

theorem getElem?_insert_eq (table : NameTable α) (key name : String) (value : α) :
    (table.insert key value)[name]? = if key = name then some value else table[name]? := by
  simp [Std.ExtTreeMap.getElem?_insert]

theorem mem_ofRows (name : String) : name ∈ ofRows rows ↔ name ∈ rows.map Prod.fst := by
  induction rows using List.reverseRecOn with
  | nil => simp
  | append_singleton rows row ih =>
      rw [ofRows_append_singleton, Std.ExtTreeMap.mem_insert, ih, Std.LawfulEqCmp.compare_eq_iff_eq, List.map_append,
        List.mem_append, List.map_singleton, List.mem_singleton, or_comm, eq_comm]

/-- The last row of a name is the one that counts. -/
theorem getElem?_ofRows_last {after : List (String × α)} {name : String} (last : name ∉ after.map Prod.fst)
    (before : List (String × α)) (value : α) : (ofRows (before ++ (name, value) :: after))[name]? = some value := by
  induction after using List.reverseRecOn with
  | nil => rw [ofRows_append_singleton, getElem?_insert_eq, if_pos rfl]
  | append_singleton after row ih =>
      rw [List.map_append, List.mem_append, not_or] at last
      have other : row.1 ≠ name := by
        rintro rfl
        exact last.2 (List.mem_singleton.2 rfl)
      rw [← List.cons_append, ← List.append_assoc, ofRows_append_singleton, getElem?_insert_eq, if_neg other]
      exact ih last.1

/-- Rows with distinct names are all in the table, and nothing else is. -/
theorem getElem?_ofRows (distinct : (rows.map Prod.fst).Nodup) (name : String) (value : α) :
    (ofRows rows)[name]? = some value ↔ (name, value) ∈ rows := by
  induction rows using List.reverseRecOn with
  | nil => simp
  | append_singleton rows row ih =>
      rw [List.map_append, List.nodup_append] at distinct
      obtain ⟨before, -, apart⟩ := distinct
      rw [ofRows_append_singleton, getElem?_insert_eq, List.mem_append, List.mem_singleton]
      by_cases same : row.1 = name
      · have fresh : (name, value) ∉ rows := by
          intro earlier
          exact apart name (List.mem_map_of_mem (f := Prod.fst) earlier) row.1 (by simp) same.symm
        rw [if_pos same]
        simp only [fresh, false_or, Option.some.injEq]
        constructor
        · rintro rfl
          exact Prod.ext same.symm rfl
        · rintro rfl
          rfl
      · have other : (name, value) ≠ row := by
          rintro rfl
          exact same rfl
        rw [if_neg same, ih before]
        simp [other]

theorem nodup_names (h : rows.Perm table.toList) : (rows.map Prod.fst).Nodup := by
  have distinct : (table.toList.map Prod.fst).Nodup := by
    refine List.pairwise_map.2 (table.distinct_keys_toList.imp fun apart same => apart ?_)
    exact Std.LawfulEqCmp.compare_eq_iff_eq.2 same
  exact (h.map Prod.fst).nodup_iff.2 distinct

theorem mem_rows (h : rows.Perm table.toList) (name : String) (value : α) :
    (name, value) ∈ rows ↔ table[name]? = some value := by
  rw [h.mem_iff, Std.ExtTreeMap.mem_toList_iff_getElem?_eq_some]

theorem mem_names (table : NameTable α) (name : String) : name ∈ table.toList.map Prod.fst ↔ name ∈ table := by
  rw [Std.ExtTreeMap.map_fst_toList_eq_keys, Std.ExtTreeMap.mem_keys]

/-- Names come out in the order of their bytes. -/
theorem names_in_byte_order (table : NameTable α) :
    (table.toList.map Prod.fst).Pairwise fun name later => name.toUTF8.data.toList < later.toUTF8.data.toList := by
  refine List.pairwise_map.2 (table.ordered_keys_toList.imp fun ordered => ?_)
  rw [← Text.bytes_toList, ← Text.bytes_toList]
  exact Text.bytes_lt_bytes (String.lt_iff.1 (compareOfLessAndEq_eq_lt.1 ordered))

end CarbonSurvey.NameTable
