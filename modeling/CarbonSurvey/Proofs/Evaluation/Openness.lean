import CarbonSurvey.Proofs.Evaluation.Answering
import CarbonSurvey.Proofs.Evaluation.Dependence

/-! # Open questions

A question that was not put, one that was left without an answer and one that was answered with a number that is
not finite are all open, and evaluation cannot tell which. It looks at an answer for words and for a finite number,
and an open question has neither.
-/

namespace CarbonSurvey

/-- The cycle that an event is about. -/
def Event.warning? : Event → Option Warning
  | .cycle warning => some warning
  | _ => none

namespace Situation

variable {left right : Situation} {name : String}

theorem value_of_leavesOpen {situation : Situation} (h : situation.leavesOpen name) :
    Plan.value situation name = if DottedName.isValid name then Plan.ofGoal (.default name) else .done 0.0 := by
  simp only [Plan.value, number?_of_leavesOpen h]

theorem fillsIn_of_leavesOpen (hleft : left.leavesOpen name) (hright : right.leavesOpen name) :
    FillsIn (fun _ => none) left right name where
  words text := iff_of_false (wordless_of_leavesOpen hright text) (wordless_of_leavesOpen hleft text)
  value := by rw [value_of_leavesOpen hright, value_of_leavesOpen hleft, Plan.fill_none]

/-- Two situations that differ in nothing but how a question is left open. -/
def OpenAlike (left right : Situation) : Prop :=
  ∀ name, right[name]? = left[name]? ∨ left.leavesOpen name ∧ right.leavesOpen name

theorem OpenAlike.fillsIn (alike : OpenAlike left right) (name : String) :
    FillsIn (fun _ => none) left right name := by
  rcases alike name with same | ⟨hleft, hright⟩
  · exact fillsIn_of_eq same
  · exact fillsIn_of_leavesOpen hleft hright

end Situation

namespace Setting

variable {model : Model} {left right : Situation} {maxDepth : Nat}

theorem pursue_eq_of_openAlike (alike : left.OpenAlike right) (stack : Stack) (goal : Goal) :
    pursue ⟨model, right, maxDepth⟩ stack goal = pursue ⟨model, left, maxDepth⟩ stack goal := by
  have plans (goal : Goal) : Plan.goal model right goal = Plan.goal model left goal := by
    have same : Plan.goal model right goal = (Plan.goal model left goal).fill fun _ => none :=
      Plan.goal_fill rfl fun mention _ => alike.fillsIn mention.name
    rwa [Plan.fill_none] at same
  exact @pursue_congr ⟨model, left, maxDepth⟩ ⟨model, right, maxDepth⟩ (fun _ => True) rfl
    (fun goal _ => plans goal) (fun _ _ _ _ => trivial) stack goal trivial

theorem query_eq_of_openAlike (alike : left.OpenAlike right) (stack : Stack) (query : Query) :
    Setting.query ⟨model, right, maxDepth⟩ stack query = Setting.query ⟨model, left, maxDepth⟩ stack query := by
  have same : query.plan right = (query.plan left).fill fun _ => none :=
    Query.plan_fill (fun _ _ => rfl) fun mention _ => alike.fillsIn mention.name
  unfold Setting.query run
  rw [same, Plan.fill_none]
  exact Plan.run_congr fun asked _ => pursue_eq_of_openAlike alike stack asked

/-- The cycles on record are those that the evaluation warned of. -/
theorem warnings_of_answer (setting : Setting) (query : Query) :
    (setting.answer query).events.filterMap Event.warning? = (setting.query [] query).warnings := by
  have recorded : ((setting.query [] query).warnings.map Event.cycle).filterMap Event.warning? =
      (setting.query [] query).warnings := by
    rw [List.filterMap_map]
    exact List.filterMap_some
  cases hresult : (setting.query [] query).result with
  | ok reading =>
      rw [answer_of_ok hresult]
      exact recorded
  | error error =>
      rw [answer_of_error hresult, List.filterMap_append, recorded]
      exact List.append_nil _

end Setting

/-- How a question is left open makes no difference. Two situations that differ only for some names, and leave the
    questions of these names open, give the same value, the same error and the same warnings in every evaluation,
    whatever is being pursued and whatever the limit is. -/
theorem open_questions_are_alike {names : Set String} {left right : Situation}
    (outside : ∀ name, name ∉ names → right[name]? = left[name]?)
    (hopen : ∀ name ∈ names, left.leavesOpen name ∧ right.leavesOpen name)
    (model : Model) (maxDepth : Nat) (query : Query) :
    (∀ stack, Setting.query ⟨model, right, maxDepth⟩ stack query =
      Setting.query ⟨model, left, maxDepth⟩ stack query) ∧
    (Setting.answer ⟨model, right, maxDepth⟩ query).reading =
      (Setting.answer ⟨model, left, maxDepth⟩ query).reading ∧
    (Setting.answer ⟨model, right, maxDepth⟩ query).events.filterMap Event.warning? =
      (Setting.answer ⟨model, left, maxDepth⟩ query).events.filterMap Event.warning? := by
  have alike : left.OpenAlike right := by
    intro name
    by_cases hname : name ∈ names
    · exact .inr (hopen name hname)
    · exact .inl (outside name hname)
  have same (stack : Stack) := @Setting.query_eq_of_openAlike model left right maxDepth alike stack query
  refine ⟨same, Setting.reading_answer_congr (same []), ?_⟩
  rw [Setting.warnings_of_answer, Setting.warnings_of_answer, same []]

/-- A sum over two questions, one of which has a guard that compares the other and needs the sum in its turn. -/
def guardedSum : Model :=
  .ofRows [("a", .rule ⟨none, none, some (.expression (.sum ["b", "c"]))⟩),
    ("b", .rule ⟨none, some (.number 5), none⟩),
    ("c", .rule ⟨some (.text "b > 4"), none, some (.expression (.sum ["a"]))⟩)]

/-- A question that was not put and one without an answer, against one that is no number and one that is infinite. -/
theorem guardedSum_open :
    (∀ stack,
      Setting.query ⟨guardedSum, .ofRows [("b", .number (0 / 0)), ("c", .number (1 / 0))], 3⟩ stack (.rule "a") =
        Setting.query ⟨guardedSum, .ofRows [("c", .unanswered)], 3⟩ stack (.rule "a")) ∧
    (Setting.answer ⟨guardedSum, .ofRows [("b", .number (0 / 0)), ("c", .number (1 / 0))], 3⟩
      (.rule "a")).reading = .number 5 ∧
    (Setting.query ⟨guardedSum, .ofRows [("c", .unanswered)], 3⟩ [] (.rule "a")).warnings =
      [⟨"a", ["a", "c", "c", "a", "a"]⟩] := by
  let left : Situation := .ofRows [("c", .unanswered)]
  let right : Situation := .ofRows [("b", .number (0 / 0)), ("c", .number (1 / 0))]
  have outside : ∀ name, name ∉ ({"b", "c"} : Set String) → right[name]? = left[name]? := by
    intro name hname
    obtain ⟨not_b, not_c⟩ : name ≠ "b" ∧ name ≠ "c" := not_or.1 hname
    simp [left, right, NameTable.ofRows, not_b.symm, not_c.symm]
  have hopen : ∀ name ∈ ({"b", "c"} : Set String), left.leavesOpen name ∧ right.leavesOpen name := by
    rintro name (rfl | rfl) <;> exact ⟨by decide +kernel, by decide +kernel⟩
  obtain ⟨same, reading, -⟩ := open_questions_are_alike outside hopen guardedSum 3 (.rule "a")
  exact ⟨same, reading.trans (by decide +kernel), by decide +kernel⟩

end CarbonSurvey
