import CarbonSurvey.Evaluation.Goal
import CarbonSurvey.Evaluation.Outcome

/-! # Plans

A plan says how a value comes about without saying how its parts are found: it is a value, or it
asks for a goal and goes on with the number it gets. What a goal means, and what happens on a cycle
or at the depth limit, is left to whoever runs the plan.
-/

namespace CarbonSurvey

inductive Plan (α : Type) where
  | done (value : α)
  | ask (goal : Goal) (next : Float → Plan α)

namespace Plan

variable {α β : Type}

def bind : Plan α → (α → Plan β) → Plan β
  | .done value, next => next value
  | .ask goal inner, next => .ask goal fun answer => (inner answer).bind next

def map (f : α → β) (plan : Plan α) : Plan β :=
  plan.bind fun value => .done (f value)

/-- Runs a plan, given what comes of each goal it asks for. -/
def run (pursue : Goal → Outcome Float) : Plan α → Outcome α
  | .done value => .ok value
  | .ask goal next => (pursue goal).bind fun answer => (next answer).run pursue

/-- The plan that asks for one goal. -/
def ofGoal (goal : Goal) : Plan Float :=
  .ask goal .done

@[simp]
theorem run_done (pursue : Goal → Outcome Float) (value : α) :
    (done value).run pursue = .ok value := rfl

theorem run_bind (pursue : Goal → Outcome Float) (plan : Plan α) (next : α → Plan β) :
    (plan.bind next).run pursue = (plan.run pursue).bind fun value => (next value).run pursue := by
  induction plan with
  | done value => rfl
  | ask goal inner ih => simp only [bind, run, Outcome.bind_assoc, ih]

@[simp]
theorem run_ofGoal (pursue : Goal → Outcome Float) (goal : Goal) :
    (ofGoal goal).run pursue = pursue goal := by
  simp only [ofGoal, run, Outcome.bind_ok]

end Plan

end CarbonSurvey
