import CarbonSurvey.Evaluation.Rules

/-! # Resolution

Goals are pursued one inside another. A goal that is already being pursued is worth zero and earns a
warning, and a formula that would nest too deep is an error. Resolution ends on every model, because
a goal can only ask for others while it is on the stack, and there are only so many goals to put
there.
-/

namespace CarbonSurvey

/-- What evaluation depends on, none of which it changes. -/
structure Setting where
  model : Model
  situation : Situation
  maxDepth : Nat

namespace Model

/-- The goals of one entry that can ask for others. -/
def entryGoals (row : String × Entry) : List Goal :=
  match row.2 with
  | .bare _ => []
  | .rule _ =>
    if row.2.expression?.isSome then [.default row.1, .formula row.1] else [.default row.1]

/-- The goals of a model that can ask for others. -/
def goals (model : Model) : List Goal :=
  model.toList.flatMap entryGoals

theorem mem_goals_of_entry {model : Model} {name : String} {entry : Entry} {goal : Goal}
    (hentry : model[name]? = some entry) (hgoal : goal ∈ entryGoals (name, entry)) :
    goal ∈ model.goals :=
  List.mem_flatMap.2 ⟨(name, entry), Std.ExtTreeMap.mem_toList_iff_getElem?_eq_some.2 hentry, hgoal⟩

end Model

namespace Plan

/-- A goal of a model that asks for another is one of the model's goals. -/
theorem mem_goals_of_goal_eq_ask {model : Model} {situation : Situation} {goal asked : Goal}
    {next : Float → Plan Float} (h : Plan.goal model situation goal = .ask asked next) :
    goal ∈ model.goals := by
  cases goal with
  | formula name =>
    simp only [Plan.goal, formula] at h
    split at h
    · cases h
    · next entry hentry =>
      split at h
      · cases h
      · split at h
        · next body hbody =>
          refine Model.mem_goals_of_entry hentry ?_
          cases entry with
          | rule definition => simp [Model.entryGoals, hbody]
          | bare value => cases hbody
        · cases h
  | default name =>
    simp only [Plan.goal, default] at h
    split at h
    · cases h
    · cases h
    · next rule hentry =>
      refine Model.mem_goals_of_entry hentry ?_
      simp only [Model.entryGoals]
      split <;> simp

end Plan

namespace Setting

/-- How a goal is reached in a setting. -/
def plan (setting : Setting) (goal : Goal) : Plan Float :=
  Plan.goal setting.model setting.situation goal

/-- The goals that could still be put on a stack and ask for others there. -/
def freeGoals (setting : Setting) (stack : Stack) : List Goal :=
  setting.model.goals.filter (· ∉ stack)

theorem length_freeGoals_cons {setting : Setting} {stack : Stack} {goal : Goal}
    (hgoal : goal ∈ setting.model.goals) (hstack : goal ∉ stack) :
    (setting.freeGoals (goal :: stack)).length < (setting.freeGoals stack).length := by
  have hsub : setting.freeGoals (goal :: stack) =
      (setting.freeGoals stack).filter (· ≠ goal) := by
    simp only [freeGoals, List.filter_filter, List.mem_cons, not_or]
    exact List.filter_congr fun x _ => by simp
  rw [hsub]
  exact List.length_filter_lt_length_iff_exists.2
    ⟨goal, List.mem_filter.2 ⟨hgoal, by simpa using hstack⟩, by simp⟩

/-- Pursues a goal inside others. -/
def pursue (setting : Setting) (stack : Stack) (goal : Goal) : Outcome Float :=
  if _hstack : goal ∈ stack then
    .warn ⟨goal.name, stack.cycle goal.name⟩ 0.0
  else if goal.isFormula ∧ setting.maxDepth ≤ stack.nesting then
    .fail (.tooDeep goal.name setting.maxDepth (stack.nesting + 1))
  else
    match _hplan : setting.plan goal with
    | .done value => .ok value
    | .ask asked next => (Plan.ask asked next).run fun inner => setting.pursue (goal :: stack) inner
termination_by (setting.freeGoals stack).length
decreasing_by exact length_freeGoals_cons (Plan.mem_goals_of_goal_eq_ask _hplan) _hstack

/-- A goal that is neither a cycle nor too deep is its plan, run with the goal on the stack. -/
theorem pursue_eq (setting : Setting) (stack : Stack) (goal : Goal) :
    setting.pursue stack goal =
      if goal ∈ stack then
        .warn ⟨goal.name, stack.cycle goal.name⟩ 0.0
      else if goal.isFormula ∧ setting.maxDepth ≤ stack.nesting then
        .fail (.tooDeep goal.name setting.maxDepth (stack.nesting + 1))
      else
        (setting.plan goal).run (setting.pursue (goal :: stack)) := by
  rw [pursue]
  split
  · rfl
  · split
    · rfl
    · split
      · next h => rw [h, Plan.run_done]
      · next h => rw [h]

end Setting

end CarbonSurvey
