import CarbonSurvey.Proofs.Evaluation.Yielding
import Mathlib.Data.List.Perm.Subperm

/-! # What plans ask for

Which goals a plan asks for depends on the answers it gets. Formulas ask for defaults only. A default
asks for a formula, or for another default when its guard compares a name that has no answer. The
goals that ask for anything at all belong to the model, which bounds a stack without repetitions.
-/

namespace CarbonSurvey

namespace Plan

variable {α β : Type} {answers : Goal → Float → Prop}

/-- A goal that a plan asks for, on the way of some of the answers. -/
def Asks (answers : Goal → Float → Prop) : Plan α → Goal → Prop
  | .done _, _ => False
  | .ask goal next, asked =>
      asked = goal ∨ ∃ answer, answers goal answer ∧ (next answer).Asks answers asked

/-- A goal that a plan asks for if the answers before it are right. -/
def MayAsk (plan : Plan α) (asked : Goal) : Prop :=
  plan.Asks (fun _ _ => True) asked

@[simp]
theorem not_asks_done {value : α} {asked : Goal} : ¬ (done value).Asks answers asked := id

@[simp]
theorem asks_ofGoal {goal asked : Goal} : (ofGoal goal).Asks answers asked ↔ asked = goal := by
  simp [ofGoal, Asks]

theorem mayAsk_ofGoal {goal asked : Goal} : (ofGoal goal).MayAsk asked ↔ asked = goal := asks_ofGoal

theorem asks_bind {plan : Plan α} {next : α → Plan β} {asked : Goal} :
    (plan.bind next).Asks answers asked ↔
      plan.Asks answers asked ∨
        ∃ middle, plan.Yields answers middle ∧ (next middle).Asks answers asked := by
  induction plan with
  | done value => simp [bind]
  | ask goal inner ih =>
      simp only [bind, Asks, ih, Yields]
      constructor
      · rintro (h | ⟨answer, hanswer, h | ⟨middle, hinner, h⟩⟩)
        · exact .inl (.inl h)
        · exact .inl (.inr ⟨answer, hanswer, h⟩)
        · exact .inr ⟨middle, ⟨answer, hanswer, hinner⟩, h⟩
      · rintro ((h | ⟨answer, hanswer, h⟩) | ⟨middle, ⟨answer, hanswer, hinner⟩, h⟩)
        · exact .inl h
        · exact .inr ⟨answer, hanswer, .inl h⟩
        · exact .inr ⟨answer, hanswer, .inr ⟨middle, hinner, h⟩⟩

theorem asks_map {f : α → β} {plan : Plan α} {asked : Goal} :
    (plan.map f).Asks answers asked ↔ plan.Asks answers asked := by
  simp [map, asks_bind]

theorem MayAsk.bind_cases {plan : Plan α} {next : α → Plan β} {asked : Goal}
    (h : (plan.bind next).MayAsk asked) : plan.MayAsk asked ∨ ∃ middle, (next middle).MayAsk asked := by
  rcases asks_bind.1 h with h | ⟨middle, _, h⟩
  · exact .inl h
  · exact .inr ⟨middle, h⟩

theorem mayAsk_map {f : α → β} {plan : Plan α} {asked : Goal} :
    (plan.map f).MayAsk asked ↔ plan.MayAsk asked := asks_map

/-- A goal that can ask for others is one of the model's. -/
theorem mem_goals_of_mayAsk {model : Model} {situation : Situation} {goal asked : Goal}
    (h : (Plan.goal model situation goal).MayAsk asked) : goal ∈ model.goals := by
  match hplan : Plan.goal model situation goal with
  | .done value =>
      rw [hplan] at h
      exact h.elim
  | .ask first next => exact mem_goals_of_goal_eq_ask hplan

end Plan

namespace Model

/-- The rules of a model that have an expression for a formula. -/
def expressionCount (model : Model) : Nat :=
  model.toList.countP fun row => row.2.expression?.isSome

/-- The entries of a model that are rules. -/
def ruleCount (model : Model) : Nat :=
  model.toList.countP fun row => row.2.rule?.isSome

theorem length_entryGoals (row : String × Entry) :
    (entryGoals row).length = row.2.expression?.isSome.toNat + row.2.rule?.isSome.toNat := by
  obtain ⟨name, entry⟩ := row
  cases entry with
  | bare value => rfl
  | rule definition => cases h : (Entry.rule definition).expression? <;> simp [entryGoals, Entry.rule?, h]

theorem countP_entryGoals (row : String × Entry) :
    (entryGoals row).countP Goal.isFormula = row.2.expression?.isSome.toNat := by
  obtain ⟨name, entry⟩ := row
  cases entry with
  | bare value => rfl
  | rule definition =>
      cases h : (Entry.rule definition).expression? <;> simp [entryGoals, Goal.isFormula, h]

/-- Each rule has a default goal, and each rule with an expression a formula goal besides. -/
theorem length_goals (model : Model) : model.goals.length = model.expressionCount + model.ruleCount := by
  unfold goals expressionCount ruleCount
  induction model.toList with
  | nil => rfl
  | cons row rest ih =>
      simp only [List.flatMap_cons, List.length_append, length_entryGoals, ih, List.countP_cons]
      cases row.2.expression?.isSome <;> cases row.2.rule?.isSome <;> grind

theorem countP_isFormula_goals (model : Model) :
    model.goals.countP Goal.isFormula = model.expressionCount := by
  unfold goals expressionCount
  induction model.toList with
  | nil => rfl
  | cons row rest ih =>
      simp only [List.flatMap_cons, List.countP_append, countP_entryGoals, ih, List.countP_cons]
      cases row.2.expression?.isSome <;> grind

end Model

namespace Stack

variable {model : Model} {stack : Stack}

theorem length_le_of_goals (distinct : stack.Nodup) (inside : ∀ goal ∈ stack, goal ∈ model.goals) :
    stack.length ≤ model.expressionCount + model.ruleCount := by
  rw [← model.length_goals]
  exact (List.subperm_of_subset distinct inside).length_le

theorem nesting_le_of_goals (distinct : stack.Nodup) (inside : ∀ goal ∈ stack, goal ∈ model.goals) :
    stack.nesting ≤ model.expressionCount := by
  rw [← model.countP_isFormula_goals]
  exact (List.subperm_of_subset distinct inside).countP_le _

end Stack

end CarbonSurvey
