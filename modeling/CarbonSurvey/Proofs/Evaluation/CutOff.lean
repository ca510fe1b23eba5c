import CarbonSurvey.Proofs.Evaluation.Transparency
import Mathlib.Data.Nat.Find

/-! # The depth limit as a cut-off

Two runs of one evaluation under different limits go the same way until the lower limit is met, and the
one with the lower limit ends there. So the limits under which an evaluation ends well are those from some
threshold on, and all of them give one value and one list of warnings.
-/

namespace CarbonSurvey

namespace Outcome

variable {α β : Type}

/-- The first outcome is the second one, or it is the failure of a run that broke off on the way there. -/
def CutsOff (left right : Outcome α) : Prop :=
  left = right ∨ (∃ error, left.result = .error error) ∧ left.warnings <+: right.warnings

theorem warnings_isPrefixOf_bind (outcome : Outcome α) (next : α → Outcome β) :
    outcome.warnings <+: (outcome.bind next).warnings := by
  simp only [bind]
  split
  · exact List.prefix_append _ _
  · exact List.prefix_refl _

namespace CutsOff

theorem refl (outcome : Outcome α) : outcome.CutsOff outcome :=
  .inl rfl

theorem warnings_isPrefixOf {left right : Outcome α} (h : left.CutsOff right) :
    left.warnings <+: right.warnings := by
  rcases h with rfl | ⟨_, h⟩
  · exact List.prefix_refl _
  · exact h

theorem eq_of_ok {left right : Outcome α} {value : α} (h : left.CutsOff right)
    (hvalue : left.result = .ok value) : left = right := by
  rcases h with h | ⟨⟨error, herror⟩, _⟩
  · exact h
  · rw [herror] at hvalue
    cases hvalue

theorem bind {left right : Outcome α} {next other : α → Outcome β} (h : left.CutsOff right)
    (hnext : ∀ value, (next value).CutsOff (other value)) : (left.bind next).CutsOff (right.bind other) := by
  rcases h with rfl | ⟨⟨error, herror⟩, h⟩
  · cases hresult : left.result with
    | error error =>
        left
        simp only [Outcome.bind, hresult]
    | ok value =>
        rcases hnext value with same | ⟨hfails, h⟩
        · left
          simp only [Outcome.bind, hresult, same]
        · right
          simp only [Outcome.bind, hresult]
          exact ⟨hfails, (List.prefix_append_right_inj left.warnings).2 h⟩
  · right
    have cut : left.bind next = ⟨left.warnings, .error error⟩ := by simp only [Outcome.bind, herror]
    rw [cut]
    exact ⟨⟨error, rfl⟩, h.trans (right.warnings_isPrefixOf_bind other)⟩

end CutsOff

/-- Where each outcome cuts off those after it and one of them is good, there is a first good one, and all
    after it are the same. -/
theorem exists_threshold {outcome : Nat → Outcome α} {bound : Nat} {value : α}
    (cutsOff : ∀ lower upper, lower ≤ upper → (outcome lower).CutsOff (outcome upper))
    (hbound : (outcome bound).result = .ok value) :
    ∃ threshold ≤ bound, ∀ limit,
      ((∃ error, (outcome limit).result = .error error) ↔ limit < threshold) ∧
      (threshold ≤ limit → outcome limit = ⟨(outcome bound).warnings, .ok value⟩) := by
  classical
  have ends_well : ∃ limit value, (outcome limit).result = .ok value := ⟨bound, value, hbound⟩
  obtain ⟨first, hfirst⟩ := Nat.find_spec ends_well
  have le_bound : Nat.find ends_well ≤ bound := Nat.find_min' ends_well ⟨value, hbound⟩
  have settled : ∀ limit, Nat.find ends_well ≤ limit →
      outcome limit = ⟨(outcome bound).warnings, .ok value⟩ := by
    intro limit h
    rw [← (cutsOff _ limit h).eq_of_ok hfirst, (cutsOff _ bound le_bound).eq_of_ok hfirst, ← hbound]
  refine ⟨Nat.find ends_well, le_bound, fun limit => ⟨⟨?_, ?_⟩, settled limit⟩⟩
  · rintro ⟨error, herror⟩
    by_contra h
    rw [settled limit (Nat.le_of_not_lt h)] at herror
    cases herror
  · intro h
    have hfails := Nat.find_min ends_well h
    cases hresult : (outcome limit).result with
    | error error => exact ⟨error, rfl⟩
    | ok value => exact absurd ⟨value, hresult⟩ hfails

end Outcome

theorem Plan.cutsOff_run {α : Type} {pursue other : Goal → Outcome Float} {plan : Plan α}
    (h : ∀ asked, plan.MayAsk asked → (pursue asked).CutsOff (other asked)) :
    (plan.run pursue).CutsOff (plan.run other) := by
  induction plan with
  | done value => exact .refl _
  | ask goal next ih =>
      refine (h goal (.inl rfl)).bind fun answer => ?_
      exact ih answer fun asked hasked => h asked (.inr ⟨answer, trivial, hasked⟩)

namespace Setting

variable {model : Model} {situation : Situation} {lower upper : Nat}

/-- The limit is looked at where a formula is opened and nowhere else. -/
theorem cutsOff_pursue (hlimit : lower ≤ upper) (stack : Stack) (goal : Goal) :
    (pursue ⟨model, situation, lower⟩ stack goal).CutsOff (pursue ⟨model, situation, upper⟩ stack goal) := by
  induction stack, goal using pursuit_induction ⟨model, situation, lower⟩ with
  | cycle stack goal hstack =>
      rw [pursue_of_mem hstack, pursue_of_mem hstack]
      exact .refl _
  | deep stack goal hstack hdeep =>
      rw [pursue_of_deep hstack hdeep]
      exact .inr ⟨⟨_, rfl⟩, List.nil_prefix⟩
  | opened stack goal hstack hdeep ih =>
      have hopen : ¬ (goal.isFormula ∧ upper ≤ stack.nesting) :=
        fun h => hdeep ⟨h.1, Nat.le_trans hlimit h.2⟩
      rw [pursue_of_open hstack hdeep, pursue_of_open hstack hopen]
      exact Plan.cutsOff_run ih

theorem cutsOff_query (hlimit : lower ≤ upper) (stack : Stack) (query : Query) :
    (Setting.query ⟨model, situation, lower⟩ stack query).CutsOff
      (Setting.query ⟨model, situation, upper⟩ stack query) :=
  Plan.cutsOff_run fun asked _ => cutsOff_pursue hlimit stack asked

end Setting

/-- The depth limit is a pure cut-off. There is a threshold, at most one more than the formulas of the
    model that have to be evaluated, below which an evaluation fails and from which on its value and its
    warnings are always the same. What it warns of below the threshold is the beginning of these. -/
theorem limit_is_cut_off (model : Model) (situation : Situation) (query : Query) :
    ∃ threshold ≤ model.expressionCount + 1, ∃ warnings reading, ∀ limit,
      ((∃ error, (Setting.query ⟨model, situation, limit⟩ [] query).result = .error error) ↔
        limit < threshold) ∧
      (threshold ≤ limit → Setting.query ⟨model, situation, limit⟩ [] query = ⟨warnings, .ok reading⟩) ∧
      (Setting.query ⟨model, situation, limit⟩ [] query).warnings <+: warnings := by
  have cutsOff := fun lower upper hlimit =>
    @Setting.cutsOff_query model situation lower upper hlimit [] query
  obtain ⟨reading, hreading⟩ : ∃ reading,
      (Setting.query ⟨model, situation, model.expressionCount + 1⟩ [] query).result = .ok reading :=
    Setting.query_result query (Nat.lt_succ_self _)
  obtain ⟨threshold, le_bound, settled⟩ := Outcome.exists_threshold cutsOff hreading
  refine ⟨threshold, le_bound, _, reading, fun limit => ⟨(settled limit).1, (settled limit).2, ?_⟩⟩
  rcases Nat.le_total limit (model.expressionCount + 1) with h | h
  · exact (cutsOff limit _ h).warnings_isPrefixOf
  · have same := congrArg Outcome.warnings ((settled limit).2 (Nat.le_trans le_bound h))
    exact same ▸ List.prefix_refl _

/-- A sum that needs itself, and then a name whose default is a name without a rule. -/
def selfSum : Model :=
  .ofRows [("a", .rule ⟨none, none, some (.expression (.sum ["a", "b"]))⟩),
    ("b", .rule ⟨none, some (.reference "c"), none⟩)]

/-- The threshold may be one more than the formulas to be evaluated. Under the limit just below it the
    cycle has been found, and from there on nothing changes any more. -/
theorem selfSum_threshold :
    selfSum.expressionCount = 1 ∧
    (Setting.query ⟨selfSum, ∅, 1⟩ [] (.rule "a")).warnings = [⟨"a", ["a", "a", "a"]⟩] ∧
    (∃ error, (Setting.query ⟨selfSum, ∅, 1⟩ [] (.rule "a")).result = .error error) ∧
    ∀ limit, 2 ≤ limit →
      Setting.query ⟨selfSum, ∅, limit⟩ [] (.rule "a") = ⟨[⟨"a", ["a", "a", "a"]⟩], .ok (.number 0)⟩ := by
  have fails : (Setting.query ⟨selfSum, ∅, 1⟩ [] (.rule "a")).result = .error (.tooDeep "c" 1 2) := by
    decide +kernel
  have ends_well : (Setting.query ⟨selfSum, ∅, 2⟩ [] (.rule "a")).result = .ok (.number 0) := by
    decide +kernel
  have warns : (Setting.query ⟨selfSum, ∅, 2⟩ [] (.rule "a")).warnings = [⟨"a", ["a", "a", "a"]⟩] := by
    decide +kernel
  obtain ⟨threshold, _, warnings, reading, settled⟩ := limit_is_cut_off selfSum ∅ (.rule "a")
  have le_two : threshold ≤ 2 := by
    by_contra h
    obtain ⟨error, herror⟩ := (settled 2).1.2 (Nat.lt_of_not_le h)
    rw [ends_well] at herror
    cases herror
  have at_two := (settled 2).2.1 le_two
  rw [at_two] at ends_well warns
  obtain rfl := warns
  obtain ⟨⟩ := ends_well
  refine ⟨by decide +kernel, by decide +kernel, ⟨_, fails⟩, fun limit h => ?_⟩
  exact (settled limit).2.1 (Nat.le_trans le_two h)

end CarbonSurvey
