import CarbonSurvey.Proofs.Evaluation.Asking

/-! # Pursuits

A goal that is pursued on a stack is a cycle, or too deep, or it is opened. `pursuit_induction` follows a
goal that is opened to what it may ask for, and the lemmas on runs say that a run depends on those goals
alone.
-/

namespace CarbonSurvey

namespace Plan

variable {α : Type} {pursue other : Goal → Outcome Float} {plan : Plan α}

/-- Only the answers to what a plan may ask for count. -/
theorem Yields.mono {answers others : Goal → Float → Prop} {worth : α} (hplan : plan.Yields answers worth)
    (h : ∀ asked, plan.MayAsk asked → ∀ answer, answers asked answer → others asked answer) :
    plan.Yields others worth := by
  induction plan with
  | done value => exact hplan
  | ask goal next ih =>
      obtain ⟨answer, hanswer, hnext⟩ := hplan
      refine ⟨answer, h goal (.inl rfl) answer hanswer, ih answer hnext ?_⟩
      exact fun asked hasked => h asked (.inr ⟨answer, trivial, hasked⟩)

theorem run_congr (h : ∀ asked, plan.MayAsk asked → pursue asked = other asked) :
    plan.run pursue = plan.run other := by
  induction plan with
  | done value => rfl
  | ask goal next ih =>
      have same : pursue goal = other goal := h goal (.inl rfl)
      simp only [run, same]
      congr 1
      funext answer
      exact ih answer fun asked hasked => h asked (.inr ⟨answer, trivial, hasked⟩)

/-- A run ends well when each goal it may ask for does. -/
theorem run_result (h : ∀ asked, plan.MayAsk asked → ∃ answer, (pursue asked).result = .ok answer) :
    ∃ worth, (plan.run pursue).result = .ok worth := by
  induction plan with
  | done value => exact ⟨value, rfl⟩
  | ask goal next ih =>
      obtain ⟨answer, hanswer⟩ := h goal (.inl rfl)
      obtain ⟨worth, hworth⟩ := ih answer fun asked hasked => h asked (.inr ⟨answer, trivial, hasked⟩)
      exact ⟨worth, by simp only [run, Outcome.bind, hanswer, hworth]⟩

/-- A run warns of what its goals warn of. -/
theorem mem_warnings_run {warning : Warning} (h : warning ∈ (plan.run pursue).warnings) :
    ∃ asked, plan.MayAsk asked ∧ warning ∈ (pursue asked).warnings := by
  induction plan with
  | done value => simp [Outcome.ok] at h
  | ask goal next ih =>
      simp only [run, Outcome.bind] at h
      split at h
      · next answer _ =>
        rcases List.mem_append.1 h with h | h
        · exact ⟨goal, .inl rfl, h⟩
        · obtain ⟨asked, hasked, hwarning⟩ := ih answer h
          exact ⟨asked, .inr ⟨answer, trivial, hasked⟩, hwarning⟩
      · exact ⟨goal, .inl rfl, h⟩

end Plan

namespace Setting

variable {setting : Setting} {stack : Stack} {goal : Goal}

theorem pursue_of_mem (hstack : goal ∈ stack) :
    setting.pursue stack goal = .warn ⟨goal.name, stack.cycle goal.name⟩ 0.0 := by
  rw [pursue_eq, if_pos hstack]

theorem pursue_of_deep (hstack : goal ∉ stack) (hdeep : goal.isFormula ∧ setting.maxDepth ≤ stack.nesting) :
    setting.pursue stack goal = .fail (.tooDeep goal.name setting.maxDepth (stack.nesting + 1)) := by
  rw [pursue_eq, if_neg hstack, if_pos hdeep]

theorem pursue_of_open (hstack : goal ∉ stack)
    (hdeep : ¬ (goal.isFormula ∧ setting.maxDepth ≤ stack.nesting)) :
    setting.pursue stack goal = (setting.plan goal).run (setting.pursue (goal :: stack)) := by
  rw [pursue_eq, if_neg hstack, if_neg hdeep]

/-- A goal comes to a value without a warning when it is opened and what it asks for does. -/
theorem pursue_eq_ok_iff {worth : Float} :
    setting.pursue stack goal = .ok worth ↔
      goal ∉ stack ∧ ¬ (goal.isFormula ∧ setting.maxDepth ≤ stack.nesting) ∧
        (setting.plan goal).Yields (fun asked answer => setting.pursue (goal :: stack) asked = .ok answer) worth := by
  constructor
  · intro h
    have hstack : goal ∉ stack := by
      intro hstack
      rw [pursue_of_mem hstack] at h
      simp [Outcome.warn, Outcome.ok] at h
    have hdeep : ¬ (goal.isFormula ∧ setting.maxDepth ≤ stack.nesting) := by
      intro hdeep
      rw [pursue_of_deep hstack hdeep] at h
      simp [Outcome.fail, Outcome.ok] at h
    rw [pursue_of_open hstack hdeep] at h
    exact ⟨hstack, hdeep, Plan.run_eq_ok_iff.1 h⟩
  · rintro ⟨hstack, hdeep, h⟩
    rw [pursue_of_open hstack hdeep]
    exact Plan.run_eq_ok_iff.2 h

/-- What holds of cycles and of goals that are too deep, and of every goal for whose questions it holds
    one level up, holds of all goals on all stacks. -/
theorem pursuit_induction (setting : Setting) {motive : Stack → Goal → Prop}
    (cycle : ∀ (stack : Stack) goal, goal ∈ stack → motive stack goal)
    (deep : ∀ (stack : Stack) goal, goal ∉ stack → goal.isFormula ∧ setting.maxDepth ≤ stack.nesting →
      motive stack goal)
    (opened : ∀ (stack : Stack) goal, goal ∉ stack → ¬ (goal.isFormula ∧ setting.maxDepth ≤ stack.nesting) →
      (∀ asked, (setting.plan goal).MayAsk asked → motive (goal :: stack) asked) → motive stack goal)
    (stack : Stack) (goal : Goal) : motive stack goal := by
  induction stack, goal using pursue.induct setting with
  | case1 stack goal hstack => exact cycle stack goal hstack
  | case2 stack goal hstack hdeep => exact deep stack goal hstack hdeep
  -- a goal that asks for nothing has no goals above it
  | case3 stack goal hstack hdeep value hplan =>
      refine opened stack goal hstack hdeep fun asked hasked => ?_
      rw [hplan] at hasked
      exact hasked.elim
  | case4 stack goal hstack hdeep first next hplan ih =>
      exact opened stack goal hstack hdeep fun asked _ => ih asked

/-- What holds of a goal as soon as it holds of all goals one level up, if the goal can be put on the stack
    and ask for any, holds of all goals on all stacks. -/
theorem goals_induction (setting : Setting) {motive : Stack → Goal → Prop}
    (step : ∀ (stack : Stack) goal,
      (goal ∉ stack → goal ∈ setting.model.goals → ∀ asked, motive (goal :: stack) asked) → motive stack goal)
    (stack : Stack) (goal : Goal) : motive stack goal :=
  step stack goal fun _hstack _hgoal asked => goals_induction setting step (goal :: stack) asked
termination_by (setting.freeGoals stack).length
decreasing_by exact length_freeGoals_cons _hgoal _hstack

/-- Goals come to the same in two settings where they have the same plans, as have the goals that these plans
    may ask for. -/
theorem pursue_congr {left right : Setting} (reached : Goal → Prop) (limit : right.maxDepth = left.maxDepth)
    (plans : ∀ goal, reached goal → right.plan goal = left.plan goal)
    (closed : ∀ goal asked, reached goal → (left.plan goal).MayAsk asked → reached asked)
    (stack : Stack) (goal : Goal) (hgoal : reached goal) : right.pursue stack goal = left.pursue stack goal := by
  induction stack, goal using pursuit_induction left with
  | cycle stack goal hstack => rw [pursue_of_mem hstack, pursue_of_mem hstack]
  | deep stack goal hstack hdeep =>
      have also_deep : goal.isFormula ∧ right.maxDepth ≤ stack.nesting := by rwa [limit]
      rw [pursue_of_deep hstack hdeep, pursue_of_deep hstack also_deep, limit]
  | opened stack goal hstack hdeep ih =>
      have also_open : ¬ (goal.isFormula ∧ right.maxDepth ≤ stack.nesting) := by rwa [limit]
      rw [pursue_of_open hstack hdeep, pursue_of_open hstack also_open, plans goal hgoal]
      exact Plan.run_congr fun asked hasked => ih asked hasked (closed goal asked hgoal hasked)

/-- The plan of a goal does not matter once it is on the stack. -/
theorem pursue_congr_of_mem {left right : Setting} {known : Goal} (limit : right.maxDepth = left.maxDepth)
    (plans : ∀ goal, goal ≠ known → right.plan goal = left.plan goal)
    (stack : Stack) (goal : Goal) (hknown : known ∈ stack) : right.pursue stack goal = left.pursue stack goal := by
  induction stack, goal using pursuit_induction left with
  | cycle stack goal hstack => rw [pursue_of_mem hstack, pursue_of_mem hstack]
  | deep stack goal hstack hdeep =>
      have also_deep : goal.isFormula ∧ right.maxDepth ≤ stack.nesting := by rwa [limit]
      rw [pursue_of_deep hstack hdeep, pursue_of_deep hstack also_deep, limit]
  | opened stack goal hstack hdeep ih =>
      have also_open : ¬ (goal.isFormula ∧ right.maxDepth ≤ stack.nesting) := by rwa [limit]
      have apart : goal ≠ known := fun same => hstack (same ▸ hknown)
      rw [pursue_of_open hstack hdeep, pursue_of_open hstack also_open, plans goal apart]
      exact Plan.run_congr fun asked hasked => ih asked hasked (.tail _ hknown)

end Setting

end CarbonSurvey
