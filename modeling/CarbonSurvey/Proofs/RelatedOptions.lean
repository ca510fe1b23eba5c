import Mathlib.Data.Option.Defs

/-! # Related options

Two look-ups that find related values, or both find nothing. What is done with the one and with the other is related
again.
-/

namespace CarbonSurvey

variable {α β γ : Type} {rel : α → β → Prop} {left second : Option α} {right second' : Option β}

theorem isSome_eq_of_rel (h : Option.Rel rel left right) : right.isSome = left.isSome := by
  cases h <;> rfl

theorem exists_of_rel_some {value : α} (h : Option.Rel rel (some value) right) :
    ∃ other, right = some other ∧ rel value other := by
  cases h with
  | some related => exact ⟨_, rfl, related⟩

theorem eq_none_of_rel_none (h : Option.Rel rel none right) : right = none := by
  cases h
  rfl

theorem rel_or (hfirst : Option.Rel rel left right) (hsecond : Option.Rel rel second second') :
    Option.Rel rel (left.or second) (right.or second') := by
  cases hfirst with
  | some found => exact .some found
  | none => exact hsecond

/-- What cannot tell related values apart comes to the same. -/
theorem map_eq_of_rel (h : Option.Rel rel left right) {f : α → γ} {g : β → γ}
    (same : ∀ value ∈ left, ∀ other, rel value other → g other = f value) : right.map g = left.map f := by
  cases h with
  | none => rfl
  | some related => exact congrArg some (same _ rfl _ related)

end CarbonSurvey
