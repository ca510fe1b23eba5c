import CarbonSurvey.Proofs.Decimal.Layout
import CarbonSurvey.Proofs.Decimal.Spelling
import CarbonSurvey.Report.Summary
import CarbonSurvey.Text.Position

/-! # Values one a line

A value in a report is a numeral or one of three words (`newline_not_mem_plain`), so a list of values has one line
for each of them (`lines_rawValues`).
-/

namespace CarbonSurvey

namespace Decimal

open Numeral

theorem isMark_placePoint {digits : List Char} (h : ∀ c ∈ digits, IsMark c) (places : Int) :
    ∀ c ∈ Layout.placePoint [] digits places, IsMark c := by
  have point : IsMark '.' := .inr (by simp)
  have zeros : ∀ n, ∀ c ∈ List.replicate n '0', IsMark c := fun n c hc => .inl (Parts.isDigit_of_mem_replicate n c hc)
  unfold Layout.placePoint
  split
  · exact List.forall_mem_cons.2 ⟨.inl rfl, List.forall_mem_cons.2 ⟨point, List.forall_mem_append.2 ⟨zeros _, h⟩⟩⟩
  · split
    · rw [List.append_nil]
      exact List.forall_mem_append.2 ⟨h, zeros _⟩
    · refine List.forall_mem_append.2 ⟨fun c hc => h c (List.mem_of_mem_take hc), ?_⟩
      exact List.forall_mem_cons.2 ⟨point, fun c hc => h c (List.mem_of_mem_drop hc)⟩

theorem isMark_writeFinite (x : Float) : ∀ c ∈ Layout.plain.writeFinite x, IsMark c := by
  have digits : ∀ c ∈ Layout.plain.writeDigits (shortest Layout.plain.tie x), IsMark c :=
    isMark_placePoint (fun c hc => .inl (isDigit_of_mem_toDigits hc)) _
  unfold Layout.writeFinite
  split
  · exact List.forall_mem_cons.2 ⟨.inr (by simp), digits⟩
  · exact digits

theorem newline_not_mem_plain (x : Float) : '\n' ∉ (plain x).toList := by
  unfold plain
  split
  · decide
  · split
    · split <;> decide
    · rw [String.toList_ofList]
      intro h
      rcases isMark_writeFinite x _ h with digit | mark
      · exact absurd digit (by decide)
      · exact absurd mark (by decide)

end Decimal

namespace Text

theorem lines_append_newline {line : List Char} (unbroken : '\n' ∉ line) (rest : List Char) :
    lines (line ++ '\n' :: rest) = (line ++ ['\n']) :: lines rest := by
  induction line with
  | nil => simp [lines]
  | cons c line ih =>
      obtain ⟨apart, later⟩ := List.ne_and_not_mem_of_not_mem_cons unbroken
      simp only [List.cons_append, lines, if_neg (Ne.symm apart), ih later, consLine]

end Text

namespace Report

theorem lines_rawValues (values : List Float) :
    Text.lines (rawValues values).toList = values.map fun value => (Decimal.plain value).toList ++ ['\n'] := by
  induction values with
  | nil => rfl
  | cons value values ih =>
      have first : (rawValues (value :: values)).toList =
          (Decimal.plain value).toList ++ '\n' :: (rawValues values).toList := by
        simp [rawValues, String.join_cons]
      rw [first, Text.lines_append_newline (Decimal.newline_not_mem_plain value), ih, List.map_cons]

end Report

end CarbonSurvey
