import CarbonSurvey.Text.Blank
import Mathlib.Data.List.DropRight

/-! # Trimming

Blanks come off at the front and at the end, and one end does not see the other. What is not blank
stays, so the number of its characters tells texts apart that differ in more than their blanks.
-/

namespace CarbonSurvey.Text

variable {text left right : List Char} {c : Char}

/-- Whether a text has a blank in front. -/
def startsBlank (text : List Char) : Bool :=
  text.head?.any isBlank

/-- How many characters of a text are not blank. -/
def ink (text : List Char) : Nat :=
  text.countP fun c => !isBlank c

theorem isBlank_space : isBlank ' ' = true := by decide

theorem isBlank_point : isBlank '.' = false := by decide

theorem trimStart_of_not_startsBlank (h : startsBlank text = false) : trimStart text = text := by
  cases text with
  | nil => rfl
  | cons c rest =>
      have marked : isBlank c = false := by simpa [startsBlank] using h
      simp only [trimStart_cons, marked, Bool.false_eq_true, if_false]

theorem trimStart_of_blank (h : ∀ c ∈ left, isBlank c) : trimStart (left ++ right) = trimStart right :=
  List.dropWhile_append_of_pos h

theorem trimStart_append_cons (marked : isBlank c = false) :
    trimStart (left ++ c :: right) = trimStart left ++ c :: right := by
  induction left with
  | nil => simp only [List.nil_append, trimStart_nil, trimStart_cons, marked, Bool.false_eq_true, if_false]
  | cons first rest ih =>
      rw [List.cons_append, trimStart_cons, trimStart_cons, ih]
      split
      · rfl
      · rfl

theorem trimEnd_append_cons (marked : isBlank c = false) :
    trimEnd (left ++ c :: right) = left ++ c :: trimEnd right := by
  have front : trimStart (right.reverse ++ c :: left.reverse) =
      trimStart right.reverse ++ c :: left.reverse := trimStart_append_cons marked
  simp only [trimStart] at front
  simp [trimEnd, front]

theorem trimEnd_isPrefixOf (text : List Char) : trimEnd text <+: text :=
  List.rdropWhile_prefix isBlank text

theorem trimEnd_eq_nil_iff : trimEnd text = [] ↔ ∀ c ∈ text, isBlank c :=
  List.rdropWhile_eq_nil_iff

theorem trimEnd_append (h : ∃ c ∈ right, isBlank c = false) :
    trimEnd (left ++ right) = left ++ trimEnd right := by
  obtain ⟨c, hmem, marked⟩ := h
  obtain ⟨before, after, rfl⟩ := List.append_of_mem hmem
  rw [trimEnd_append_cons marked, ← List.append_assoc, trimEnd_append_cons marked, List.append_assoc]

theorem trimEnd_cons_of_blank (blank : isBlank c) (h : ∀ x ∈ text, isBlank x) :
    trimEnd (c :: text) = [] :=
  trimEnd_eq_nil_iff.2 (List.forall_mem_cons.2 ⟨blank, h⟩)

theorem trimEnd_trimEnd (text : List Char) : trimEnd (trimEnd text) = trimEnd text :=
  List.rdropWhile_idempotent isBlank text

theorem trim_trimStart (text : List Char) : trim (trimStart text) = trim text := by
  simp only [trim, trimStart, List.dropWhile_idempotent]

/-- The end may come off first. -/
theorem trim_trimEnd (text : List Char) : trim (trimEnd text) = trim text := by
  by_cases marked : ∃ c ∈ text, isBlank c = false
  · obtain ⟨c, hmem, hc⟩ := marked
    obtain ⟨before, after, rfl⟩ := List.append_of_mem hmem
    simp only [trim, trimEnd_append_cons hc, trimStart_append_cons hc, trimEnd_trimEnd]
  · have blank : ∀ c ∈ text, isBlank c := by simpa using marked
    have start_nil : trimStart text = [] := List.dropWhile_eq_nil_iff.2 blank
    rw [trimEnd_eq_nil_iff.2 blank, trim_nil, trim, start_nil, trimEnd_nil]

theorem trim_of_not_startsBlank (h : startsBlank text = false) : trim text = trimEnd text := by
  rw [trim, trimStart_of_not_startsBlank h]

theorem startsBlank_trim (text : List Char) : startsBlank (trim text) = false := by
  have front := List.head?_dropWhile_not isBlank text
  rw [trim, trimStart]
  cases h : text.dropWhile isBlank with
  | nil => rfl
  | cons c rest =>
      rw [h] at front
      have marked : isBlank c = false := by simpa using front
      rw [← List.nil_append (c :: rest), trimEnd_append_cons marked]
      simp [startsBlank, marked]

theorem ink_append : ink (left ++ right) = ink left + ink right := List.countP_append

theorem ink_trimStart (text : List Char) : ink (trimStart text) = ink text := by
  induction text with
  | nil => rfl
  | cons c rest ih =>
      rw [trimStart_cons]
      split
      · next blank =>
        rw [ih, ink, ink, List.countP_cons_of_neg (by simp [blank])]
      · rfl

theorem ink_reverse (text : List Char) : ink text.reverse = ink text := List.countP_reverse

theorem ink_trimEnd (text : List Char) : ink (trimEnd text) = ink text := by
  have front := ink_trimStart text.reverse
  rw [ink_reverse] at front
  rw [trimEnd, ink_reverse]
  exact front

theorem ink_trim (text : List Char) : ink (trim text) = ink text := by
  rw [trim, ink_trimEnd, ink_trimStart]

end CarbonSurvey.Text
