import CarbonSurvey.Report.Excerpt
import CarbonSurvey.Proofs.Text.Lines

/-! # What a report marks

An error says where it is by a line and a column of bytes, and a report marks characters. Every position
marks characters of the text, and the position of a byte marks the character that starts there
(`marks_position`).
-/

namespace CarbonSurvey

open Text

theorem Details.offset_le (details : Details) :
    details.offset ≤ byteLength details.document.text.toList := by
  have within := indexIn_le (lines details.document.text.toList) details.position.line details.position.column
  rwa [flatten_lines] at within

/-- A position in a line does not leave it, however far its column goes. -/
theorem Details.offset_mem_line (details : Details) {before line : List Char}
    (h : IsLine details.document.text.toList details.position.line before line) :
    byteLength before ≤ details.offset ∧ details.offset ≤ byteLength before + byteLength line := by
  rw [Details.offset, h.indexIn_eq]
  exact ⟨Nat.le_add_right _ _, Nat.add_le_add_left (Nat.min_le_right _ _) _⟩

namespace Report

theorem label_le (details : Details) :
    (label details).1 ≤ (label details).2 ∧ (label details).2 ≤ details.document.text.toList.length :=
  ⟨Nat.le_min.2 ⟨Nat.le_succ _, charsBefore_le _ _⟩, Nat.min_le_right _ _⟩

theorem label_start {details : Details} {left right : List Char}
    (whole : details.document.text.toList = left ++ right) (place : details.offset = byteLength left) :
    (label details).1 = left.length := by
  rw [label, whole, place, charsBefore_byteLength]

/-- The position of a byte means that byte, and where a character starts, its report marks from there. Any
    other position stays in the text and marks characters of it. There is one line more than there are
    newlines, and a position that names one of them stays in it. -/
theorem marks_position (message : String) (document : Document) :
    (∀ index ≤ byteLength document.text.toList,
      let details : Details := ⟨message, .placed document.text.toList index, document⟩
      details.offset = index ∧
        ∀ left right, document.text.toList = left ++ right → byteLength left = index →
          (label details).1 = left.length) ∧
    ∀ position : Position,
      let details : Details := ⟨message, position, document⟩
      details.offset ≤ byteLength document.text.toList ∧
        ((∃ before line, IsLine document.text.toList position.line before line) ↔
          1 ≤ position.line ∧ position.line ≤ document.text.toList.count '\n' + 1) ∧
        (∀ before line, IsLine document.text.toList position.line before line →
          byteLength before ≤ details.offset ∧ details.offset ≤ byteLength before + byteLength line) ∧
        (label details).1 ≤ (label details).2 ∧ (label details).2 ≤ document.text.toList.length := by
  constructor
  · intro index within details
    have place : details.offset = index := indexIn_placed within
    refine ⟨place, fun left right whole start => ?_⟩
    exact label_start whole (place.trans start.symm)
  · intro position details
    exact ⟨details.offset_le, exists_isLine_iff _ _, fun before line h => details.offset_mem_line h,
      label_le details⟩

/-- A document of two lines. The second starts after three bytes, which are two characters. -/
def accented : Document :=
  ⟨"survey.json", "é\nab"⟩

/-- The last character is the fifth byte, in the second column of the second line. A column further right
    stays in that line. -/
theorem accented_marked :
    Position.placed accented.text.toList 4 = ⟨2, 2⟩ ∧
      (Details.offset ⟨"unknown", ⟨2, 2⟩, accented⟩ = 4 ∧ (label ⟨"unknown", ⟨2, 2⟩, accented⟩).1 = 3) ∧
      3 ≤ Details.offset ⟨"unknown", ⟨2, 9⟩, accented⟩ ∧ Details.offset ⟨"unknown", ⟨2, 9⟩, accented⟩ ≤ 5 := by
  have text : accented.text.toList = ['é', '\n', 'a', 'b'] := by decide
  have placed : Position.placed accented.text.toList 4 = ⟨2, 2⟩ := by
    rw [text]
    decide
  have line : IsLine accented.text.toList 2 ['é', '\n'] ['a', 'b'] :=
    ⟨.inr rfl, rfl, by decide, [], text, .inl rfl⟩
  obtain ⟨here, everywhere⟩ := marks_position "unknown" accented
  obtain ⟨place, marked⟩ := here 4 (by rw [text]; decide)
  have label := marked ['é', '\n', 'a'] ['b'] text rfl
  rw [placed] at place label
  exact ⟨placed, ⟨place, label⟩, (everywhere ⟨2, 9⟩).2.2.1 _ _ line⟩

end Report

end CarbonSurvey
