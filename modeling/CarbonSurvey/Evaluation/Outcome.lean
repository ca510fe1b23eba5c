import CarbonSurvey.Error

/-! # Outcomes

An evaluation ends with a value or an error, and either way it may have warned about cycles on the
way. The warnings of one step come before those of the next, and after an error there is no next.
-/

namespace CarbonSurvey

/-- A name was needed for its own value. -/
structure Warning where
  name : String
  /-- The names along the cycle, from `name` back to `name`. -/
  path : List String
  deriving Repr, DecidableEq

def Warning.error (warning : Warning) : Error :=
  .circularReference (" -> ".intercalate warning.path)

structure Outcome (α : Type) where
  warnings : List Warning
  result : Except Error α

namespace Outcome

variable {α β : Type}

def ok (value : α) : Outcome α :=
  ⟨[], .ok value⟩

def fail (error : Error) : Outcome α :=
  ⟨[], .error error⟩

/-- A value that stands in for one that depends on itself. -/
def warn (warning : Warning) (value : α) : Outcome α :=
  ⟨[warning], .ok value⟩

def bind (outcome : Outcome α) (next : α → Outcome β) : Outcome β :=
  match outcome.result with
  | .ok value => ⟨outcome.warnings ++ (next value).warnings, (next value).result⟩
  | .error error => ⟨outcome.warnings, .error error⟩

@[simp]
theorem ok_bind (value : α) (next : α → Outcome β) : (ok value).bind next = next value := rfl

@[simp]
theorem fail_bind (error : Error) (next : α → Outcome β) : (fail error).bind next = fail error :=
  rfl

@[simp]
theorem bind_ok (outcome : Outcome α) : outcome.bind ok = outcome := by
  obtain ⟨warnings, result⟩ := outcome
  cases result <;> simp [bind, ok]

theorem bind_assoc {γ : Type} (outcome : Outcome α) (f : α → Outcome β) (g : β → Outcome γ) :
    (outcome.bind f).bind g = outcome.bind fun value => (f value).bind g := by
  obtain ⟨warnings, result⟩ := outcome
  cases result with
  | error => rfl
  | ok value =>
    simp only [bind]
    cases (f value).result <;> simp

end Outcome

end CarbonSurvey
