import CarbonSurvey.Proofs.Evaluation.Asking
import Mathlib.Data.List.Chain

/-! # Moments of an evaluation

The stacks that stand at some moment while a plan runs. Whatever is asked for is put on top of the
goal that asks for it, and never twice, so the goals below the top belong to the model, no matter how
high the limit is (`moment_bounded`). The same count makes the calls of goals within goals
well-founded without any limit (`calls_wellFounded`).
-/

namespace CarbonSurvey

/-- The stack `moment` stands at some moment while a plan runs on `stack`. -/
inductive Setting.Occurs (setting : Setting) : {α : Type} → Stack → Plan α → Stack → Prop where
  | here {α : Type} {stack : Stack} {plan : Plan α} : Occurs setting stack plan stack
  /-- A goal that is neither a cycle nor too deep is pursued on top of the others. -/
  | inside {α : Type} {stack moment : Stack} {goal : Goal} {next : Float → Plan α} : goal ∉ stack →
      ¬ (goal.isFormula ∧ setting.maxDepth ≤ stack.nesting) →
      Occurs setting (goal :: stack) (setting.plan goal) moment →
      Occurs setting stack (.ask goal next) moment
  /-- Once a goal has its answer it is off the stack, and the plan goes on. -/
  | after {α : Type} {stack moment : Stack} {goal : Goal} {next : Float → Plan α} {answer : Float} :
      (setting.pursue stack goal).result = .ok answer → Occurs setting stack (next answer) moment →
      Occurs setting stack (.ask goal next) moment

/-- The stack `moment` stands at some moment while a query is answered from an empty stack. -/
def Setting.OccursIn (setting : Setting) (query : Query) (moment : Stack) : Prop :=
  setting.Occurs [] (query.plan setting.situation) moment

/-- One call within another: a goal that is not yet on the stack asks for a goal in its turn. There
    is no limit here, and the answers it had before may be any. -/
inductive Calls (model : Model) (situation : Situation) : Stack × Goal → Stack × Goal → Prop where
  | intro {stack : Stack} {goal asked : Goal} : goal ∉ stack →
      (Plan.goal model situation goal).MayAsk asked →
      Calls model situation (stack, goal) (goal :: stack, asked)

variable {model : Model} {situation : Situation} {setting : Setting}

theorem calls_wellFounded (model : Model) (situation : Situation) :
    WellFounded fun inner outer => Calls model situation outer inner := by
  -- the limit plays no part in which goals are free
  let measure (call : Stack × Goal) : Nat :=
    (Setting.freeGoals ⟨model, situation, 0⟩ call.1).length
  refine Subrelation.wf ?_ (InvImage.wf measure Nat.lt_wfRel.wf)
  rintro inner outer ⟨hstack, hasked⟩
  exact Setting.length_freeGoals_cons (Plan.mem_goals_of_mayAsk hasked) hstack

namespace Setting

/-- What holds of every stack that a fresh evaluation puts up. -/
structure Regular (setting : Setting) (stack : Stack) : Prop where
  distinct : stack.Nodup
  /-- Each goal is asked for by the one beneath it. -/
  linked : stack.IsChain fun upper lower => (setting.plan lower).MayAsk upper
  shallow : stack.nesting ≤ setting.maxDepth

namespace Regular

theorem nil : setting.Regular [] :=
  ⟨List.nodup_nil, .nil, Nat.zero_le _⟩

theorem cons {stack : Stack} {goal : Goal} (h : setting.Regular stack) (hstack : goal ∉ stack)
    (hdeep : ¬ (goal.isFormula ∧ setting.maxDepth ≤ stack.nesting))
    (hasked : ∀ top ∈ stack.head?, (setting.plan top).MayAsk goal) :
    setting.Regular (goal :: stack) where
  distinct := List.nodup_cons.2 ⟨hstack, h.distinct⟩
  linked := List.isChain_cons.2 ⟨hasked, h.linked⟩
  shallow := by
    have shallow := h.shallow
    simp only [Stack.nesting, List.countP_cons] at hdeep shallow ⊢
    split
    · next isFormula =>
      have : ¬ setting.maxDepth ≤ stack.countP Goal.isFormula := fun deep => hdeep ⟨isFormula, deep⟩
      omega
    · exact shallow

/-- Only the goal on top may be one that asks for nothing. -/
theorem mem_goals_of_mem_tail {stack : Stack} (h : setting.Regular stack) :
    ∀ goal ∈ stack.tail, goal ∈ setting.model.goals := by
  have linked := h.linked
  clear h
  induction linked with
  | nil => simp
  | singleton => simp
  | cons_cons hasked _ ih =>
      exact List.forall_mem_cons.2 ⟨Plan.mem_goals_of_mayAsk hasked, ih⟩

theorem length_le {stack : Stack} (h : setting.Regular stack) :
    stack.length ≤ setting.model.expressionCount + setting.model.ruleCount + 1 := by
  have below := Stack.length_le_of_goals (List.Sublist.nodup (List.tail_sublist stack) h.distinct)
    h.mem_goals_of_mem_tail
  rw [List.length_tail] at below
  omega

end Regular

/-- Stacks stay regular while a plan runs, as long as what it asks for is asked for by the goal on
    top. -/
theorem Occurs.regular {α : Type} {stack moment : Stack} {plan : Plan α}
    (h : setting.Occurs stack plan moment) (hregular : setting.Regular stack)
    (hasks : ∀ asked, plan.MayAsk asked → ∀ top ∈ stack.head?, (setting.plan top).MayAsk asked) :
    setting.Regular moment := by
  induction h with
  | here => exact hregular
  | @inside _ stack moment goal next hstack hdeep _ ih =>
      refine ih (hregular.cons hstack hdeep (hasks goal (.inl rfl))) ?_
      rintro asked hasked top ⟨⟩
      exact hasked
  | @after _ stack moment goal next answer _ _ ih =>
      exact ih hregular fun asked hasked => hasks asked (.inr ⟨answer, trivial, hasked⟩)

theorem OccursIn.regular {query : Query} {moment : Stack} (h : setting.OccursIn query moment) :
    setting.Regular moment :=
  Occurs.regular h .nil fun _ _ _ htop => nomatch htop

end Setting

/-- Evaluation ends on every model by the cycle guard alone: calls within calls are well-founded
    without a limit, and under any limit the stack holds no goal twice and is bounded by the goals
    of the model. -/
theorem evaluation_ends (model : Model) (situation : Situation) :
    (WellFounded fun inner outer => Calls model situation outer inner) ∧
    ∀ maxDepth query moment, Setting.OccursIn ⟨model, situation, maxDepth⟩ query moment →
      moment.Nodup ∧ moment.length ≤ model.expressionCount + model.ruleCount + 1 := by
  refine ⟨calls_wellFounded model situation, fun maxDepth query moment h => ?_⟩
  have regular := Setting.OccursIn.regular h
  exact ⟨regular.distinct, regular.length_le⟩

/-- The default of `a` waits for `b`, whose formula needs a name that the model does not have. -/
def knot : Model :=
  .ofRows [("a", .rule ⟨some (.text "b > 0"), none, some (.expression (.sum ["a"]))⟩),
    ("b", .rule ⟨none, none, some (.expression (.anyOf [.text "c > 0", .text "a > 0"]))⟩)]

/-- The bound is met: every goal of this model stands beneath one that asks for nothing. -/
theorem knot_fills_stack :
    ∃ moment, Setting.OccursIn ⟨knot, ∅, 2⟩ (.rule "a") moment ∧ moment.Nodup ∧
      moment.length = knot.expressionCount + knot.ruleCount + 1 := by
  have found_a : knot["a"]? =
      some (.rule ⟨some (.text "b > 0"), none, some (.expression (.sum ["a"]))⟩) := by decide +kernel
  have found_b : knot["b"]? =
      some (.rule ⟨none, none, some (.expression (.anyOf [.text "c > 0", .text "a > 0"]))⟩) := by
    decide +kernel
  have formula_a : ∃ next, Plan.goal knot ∅ (.formula "a") = .ask (.default "a") next := by
    simp only [Plan.goal, Plan.formula, found_a]
    exact ⟨_, rfl⟩
  have default_a : ∃ next, Plan.goal knot ∅ (.default "a") = .ask (.default "b") next := by
    simp only [Plan.goal, Plan.default, found_a]
    exact ⟨_, rfl⟩
  have default_b : ∃ next, Plan.goal knot ∅ (.default "b") = .ask (.formula "b") next := by
    simp only [Plan.goal, Plan.default, found_b]
    exact ⟨_, rfl⟩
  have formula_b : ∃ next, Plan.goal knot ∅ (.formula "b") = .ask (.default "c") next := by
    simp only [Plan.goal, Plan.formula, found_b]
    exact ⟨_, rfl⟩
  have occurs : Setting.OccursIn ⟨knot, ∅, 2⟩ (.rule "a")
      [.default "c", .formula "b", .default "b", .default "a", .formula "a"] := by
    refine .inside (by decide) (by decide) ?_
    obtain ⟨_, formula_a⟩ := formula_a
    rw [Setting.plan, formula_a]
    refine .inside (by decide) (by decide) ?_
    obtain ⟨_, default_a⟩ := default_a
    rw [Setting.plan, default_a]
    refine .inside (by decide) (by decide) ?_
    obtain ⟨_, default_b⟩ := default_b
    rw [Setting.plan, default_b]
    refine .inside (by decide) (by decide) ?_
    obtain ⟨_, formula_b⟩ := formula_b
    rw [Setting.plan, formula_b]
    exact .inside (by decide) (by decide) .here
  exact ⟨_, occurs, ((evaluation_ends knot ∅).2 2 _ _ occurs).1, by decide +kernel⟩

end CarbonSurvey
