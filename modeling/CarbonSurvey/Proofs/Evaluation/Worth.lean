import CarbonSurvey.Proofs.Evaluation.Transparency

/-! # What plans are worth

A plan has a worth once every goal has an answer, whether the plan asks for it or not. With room for all
formulas of a model no evaluation fails, so all goals have an answer on every stack, and a run comes to the
worth of its plan for these answers (`Setting.result_run`). Unlike the warnings of a run, a worth does not
depend on the order in which the answers are found.
-/

namespace CarbonSurvey

namespace Plan

variable {α β : Type} {answers : Goal → Float}

/-- What a plan comes to with these answers to its goals. -/
def worth (answers : Goal → Float) : Plan α → α
  | .done value => value
  | .ask goal next => (next (answers goal)).worth answers

@[simp]
theorem worth_done (value : α) : (done value).worth answers = value := rfl

@[simp]
theorem worth_bind (plan : Plan α) (next : α → Plan β) :
    (plan.bind next).worth answers = (next (plan.worth answers)).worth answers := by
  induction plan with
  | done value => rfl
  | ask goal inner ih => exact ih (answers goal)

@[simp]
theorem worth_map (f : α → β) (plan : Plan α) : (plan.map f).worth answers = f (plan.worth answers) := by
  simp only [map, worth_bind, worth_done]

/-- A run whose goals all come to their answers comes to the worth of its plan. -/
theorem result_run {pursue : Goal → Outcome Float} {plan : Plan α}
    (h : ∀ asked, plan.MayAsk asked → (pursue asked).result = .ok (answers asked)) :
    (plan.run pursue).result = .ok (plan.worth answers) := by
  induction plan with
  | done value => rfl
  | ask goal next ih =>
      have answered : (pursue goal).result = .ok (answers goal) := h goal (.inl rfl)
      simp only [run, Outcome.bind, answered]
      exact ih (answers goal) fun asked hasked => h asked (.inr ⟨answers goal, trivial, hasked⟩)

end Plan

namespace Setting

variable {setting : Setting} {stack : Stack}

/-- What a goal comes to on a stack, and zero if it fails. -/
def worth (setting : Setting) (stack : Stack) (goal : Goal) : Float :=
  match (setting.pursue stack goal).result with
  | .ok answer => answer
  | .error _ => 0.0

theorem result_pursue (h : setting.Roomy stack) (goal : Goal) :
    (setting.pursue stack goal).result = .ok (setting.worth stack goal) := by
  obtain ⟨answer, hanswer⟩ := pursue_result goal h
  rw [worth, hanswer]

theorem result_run {α : Type} (h : setting.Roomy stack) (plan : Plan α) :
    (setting.run stack plan).result = .ok (plan.worth (setting.worth stack)) :=
  Plan.result_run fun asked _ => result_pursue h asked

/-- A goal of the model has its place on the stack. -/
theorem Roomy.push (h : setting.Roomy stack) {goal : Goal} (hstack : goal ∉ stack)
    (hgoal : goal ∈ setting.model.goals) : setting.Roomy (goal :: stack) where
  distinct := List.nodup_cons.2 ⟨hstack, h.distinct⟩
  inside := List.forall_mem_cons.2 ⟨hgoal, h.inside⟩
  room := h.room

/-- A goal that is not on the stack comes to what its plan is worth one level up. -/
theorem result_pursue_of_not_mem (h : setting.Roomy stack) {goal : Goal} (hstack : goal ∉ stack) :
    (setting.pursue stack goal).result = .ok ((setting.plan goal).worth (setting.worth (goal :: stack))) := by
  rw [h.pursue_eq hstack]
  apply Plan.result_run
  intro asked hasked
  exact result_pursue (h.push hstack (Plan.mem_goals_of_mayAsk hasked)) asked

end Setting

end CarbonSurvey
