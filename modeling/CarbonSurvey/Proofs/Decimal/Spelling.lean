import CarbonSurvey.Decimal.Numeral

/-! # How numerals are spelled

A numeral is made of digits, signs, a point and a mark for the power of ten, and of nothing else.
-/

namespace CarbonSurvey.Decimal

namespace Numeral

/-- A character that a numeral can have. -/
def IsMark (c : Char) : Prop :=
  c.isDigit ∨ c ∈ ['+', '-', '.', 'e', 'E']

variable {text : List Char}

theorem isMark_of_readSign (h : ∀ c ∈ (readSign text).2, IsMark c) : ∀ c ∈ text, IsMark c := by
  match text with
  | [] => exact nofun
  | first :: rest =>
      by_cases minus : first = '-'
      · subst minus
        exact List.forall_mem_cons.2 ⟨.inr (by simp), h⟩
      · by_cases plus : first = '+'
        · subst plus
          exact List.forall_mem_cons.2 ⟨.inr (by simp), h⟩
        · have unsigned : readSign (first :: rest) = (false, first :: rest) := by
            unfold readSign
            split <;> simp_all
          rwa [unsigned] at h

theorem isMark_of_all_isDigit (h : text.all Char.isDigit) : ∀ c ∈ text, IsMark c :=
  fun c hmem => .inl (List.all_eq_true.1 h c hmem)

theorem isMark_of_readExponent? {exponent : Int} (h : readExponent? text = some exponent) :
    ∀ c ∈ text, IsMark c := by
  match text with
  | [] => exact nofun
  | mark :: rest =>
      simp only [readExponent?] at h
      split at h
      · next spelled =>
        obtain ⟨marked, -, digits⟩ := spelled
        refine List.forall_mem_cons.2 ⟨.inr ?_, isMark_of_readSign (isMark_of_all_isDigit digits)⟩
        rcases marked with rfl | rfl <;> simp
      · exact nomatch h

theorem isMark_of_readFraction (h : ∀ c ∈ (readFraction text).2, IsMark c) : ∀ c ∈ text, IsMark c := by
  unfold readFraction at h
  split at h
  · next rest =>
    refine List.forall_mem_cons.2 ⟨.inr (by simp), ?_⟩
    rw [← List.takeWhile_append_dropWhile (p := Char.isDigit) (l := rest)]
    exact List.forall_mem_append.2 ⟨isMark_of_all_isDigit List.all_takeWhile, h⟩
  · exact h

theorem isMark_of_read? {numeral : Numeral} (h : read? text = some numeral) : ∀ c ∈ text, IsMark c := by
  simp only [read?] at h
  split at h
  · exact nomatch h
  · obtain ⟨exponent, hexponent, -⟩ := Option.map_eq_some_iff.1 h
    refine isMark_of_readSign ?_
    rw [← List.takeWhile_append_dropWhile (p := Char.isDigit) (l := (readSign text).2)]
    refine List.forall_mem_append.2 ⟨isMark_of_all_isDigit List.all_takeWhile, ?_⟩
    exact isMark_of_readFraction (isMark_of_readExponent? hexponent)

end Numeral

theorem finite?_eq_none {text : List Char} {c : Char} (hmem : c ∈ text) (h : ¬ Numeral.IsMark c) :
    finite? text = none := by
  unfold finite?
  split
  · rfl
  · next numeral hread => exact absurd (Numeral.isMark_of_read? hread c hmem) h

end CarbonSurvey.Decimal
