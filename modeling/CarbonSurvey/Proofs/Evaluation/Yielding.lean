import CarbonSurvey.Proofs.Evaluation.Judgement

/-! # What plans yield

A plan yields a value when every goal it asks for is answered. Which answers there are is left open,
so that a run with a stack, a run without one and a derivation are all read through the same
equations. Plain evaluation is the case where each goal is answered by its own plan, and
`derives_iff_planned` says that this is what the judgements say.
-/

namespace CarbonSurvey

namespace Outcome

variable {α β : Type}

theorem bind_eq_ok_iff {outcome : Outcome α} {next : α → Outcome β} {value : β} :
    outcome.bind next = .ok value ↔ ∃ middle, outcome = .ok middle ∧ next middle = .ok value := by
  obtain ⟨warnings, result⟩ := outcome
  cases result with
  | error error => simp [bind, ok]
  | ok middle =>
      constructor
      · intro h
        simp only [bind, ok, mk.injEq, List.append_eq_nil_iff] at h
        refine ⟨middle, ?_, ?_⟩
        · simp only [ok, h.1.1]
        · simp only [ok, ← h.1.2, ← h.2]
      · rintro ⟨_, h, hnext⟩
        rw [h, ok_bind, hnext]

theorem ok_inj {left right : α} : ok left = ok right ↔ left = right := by
  simp [ok]

end Outcome

namespace Plan

variable {α β : Type} {answers : Goal → Float → Prop}

/-- A plan yields a value when each goal it asks for has an answer that leads there. -/
def Yields (answers : Goal → Float → Prop) : Plan α → α → Prop
  | .done value, worth => value = worth
  | .ask goal next, worth => ∃ answer, answers goal answer ∧ (next answer).Yields answers worth

@[simp]
theorem yields_done {value worth : α} : (done value).Yields answers worth ↔ value = worth := Iff.rfl

@[simp]
theorem yields_ofGoal {goal : Goal} {worth : Float} :
    (ofGoal goal).Yields answers worth ↔ answers goal worth := by
  simp [ofGoal, Yields]

@[simp]
theorem yields_bind {plan : Plan α} {next : α → Plan β} {worth : β} :
    (plan.bind next).Yields answers worth ↔
      ∃ middle, plan.Yields answers middle ∧ (next middle).Yields answers worth := by
  induction plan with
  | done value => simp [bind]
  | ask goal inner ih =>
      simp only [bind, Yields, ih]
      constructor
      · rintro ⟨answer, hanswer, middle, hinner, hnext⟩
        exact ⟨middle, ⟨answer, hanswer, hinner⟩, hnext⟩
      · rintro ⟨middle, ⟨answer, hanswer, hinner⟩, hnext⟩
        exact ⟨answer, hanswer, middle, hinner, hnext⟩

@[simp]
theorem yields_map {f : α → β} {plan : Plan α} {worth : β} :
    (plan.map f).Yields answers worth ↔ ∃ middle, plan.Yields answers middle ∧ f middle = worth := by
  simp only [map, yields_bind, yields_done]

/-- A run ends well and without a warning exactly when each of its goals does. -/
theorem run_eq_ok_iff {pursue : Goal → Outcome Float} {plan : Plan α} {worth : α} :
    plan.run pursue = .ok worth ↔
      plan.Yields (fun goal answer => pursue goal = .ok answer) worth := by
  induction plan with
  | done value => simp only [run_done, Outcome.ok_inj, yields_done]
  | ask goal next ih => simp only [run, Outcome.bind_eq_ok_iff, Yields, ih]

/-- What a plan comes to when each goal is answered by its own plan. -/
inductive ComesTo (model : Model) (situation : Situation) : {α : Type} → Plan α → α → Prop where
  | done {α : Type} (value : α) : ComesTo model situation (.done value) value
  | ask {α : Type} {goal : Goal} {next : Float → Plan α} {answer : Float} {worth : α} :
      ComesTo model situation (Plan.goal model situation goal) answer →
      ComesTo model situation (next answer) worth → ComesTo model situation (.ask goal next) worth

end Plan

/-- The answers of plain evaluation. -/
def PlainAnswer (model : Model) (situation : Situation) (goal : Goal) (answer : Float) : Prop :=
  (Plan.goal model situation goal).ComesTo model situation answer

namespace Plan

variable {model : Model} {situation : Situation} {α : Type}

theorem comesTo_iff_yields {plan : Plan α} {worth : α} :
    plan.ComesTo model situation worth ↔ plan.Yields (PlainAnswer model situation) worth := by
  constructor
  · intro h
    induction h with
    | done value => rfl
    | ask hgoal _ _ ih => exact ⟨_, hgoal, ih⟩
  · intro h
    induction plan with
    | done value => exact h ▸ .done value
    | ask goal next ih =>
        obtain ⟨answer, hgoal, hnext⟩ := h
        exact .ask hgoal (ih answer hnext)

/-- A plan comes to one value at most. -/
theorem ComesTo.unique {plan : Plan α} {left right : α} (hleft : plan.ComesTo model situation left)
    (hright : plan.ComesTo model situation right) : left = right := by
  induction hleft with
  | done value =>
      cases hright
      rfl
  | ask _ _ ihgoal ihnext =>
      cases hright with
      | ask hgoal hnext =>
          obtain rfl := ihgoal hgoal
          exact ihnext hnext

end Plan

namespace Plan

variable {situation : Situation}

/-- The plan of a condition that may be malformed. -/
def stated (situation : Situation) : Option String → Plan Bool
  | some text => condition situation text
  | none => .done false

theorem proviso_eq_stated (premise : Proviso) :
    proviso situation premise = stated situation premise.source? := by
  cases premise <;> rfl

theorem completed_eq_stated (owner : String) (premise : Proviso) :
    completed situation owner premise = stated situation (premise.completed? owner) := by
  cases premise <;> rfl

end Plan

/-- What a judgement says about the plan it is about. -/
@[simp]
def Judgement.Planned (situation : Situation) (answers : Goal → Float → Prop) : Judgement → Prop
  | .rule name worth => answers (.formula name) worth
  | .formula owner body worth => (Plan.expression situation owner body).Yields answers worth
  | .choice owner clauses worth => (Plan.choose situation owner clauses).Yields answers worth
  | .branch owner outcome worth =>
    (Plan.nested situation owner (Plan.plain outcome) outcome).Yields answers worth
  | .total sum references worth => (Plan.total situation sum references).Yields answers worth
  | .anyOf provisos holds => (Plan.anyOf situation provisos).Yields answers holds
  | .allOf provisos holds => (Plan.allOf situation provisos).Yields answers holds
  | .condition text holds => (Plan.stated situation text).Yields answers holds
  | .guard name definition holds => (Plan.guard situation name definition).Yields answers holds
  | .value reference worth => (Plan.value situation reference).Yields answers worth
  | .default name worth => answers (.default name) worth

/-- The judgement that a goal is worth something. -/
def Goal.judgement : Goal → Float → Judgement
  | .formula name, worth => .rule name worth
  | .default name, worth => .default name worth

end CarbonSurvey
