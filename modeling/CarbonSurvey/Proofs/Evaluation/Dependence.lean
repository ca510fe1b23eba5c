import CarbonSurvey.Proofs.Evaluation.Filling
import CarbonSurvey.Proofs.Evaluation.Pursuit
import Mathlib.Data.Set.Basic

/-! # What an evaluation depends on

A set of names is closed when the rules of its names mention nothing outside it. An evaluation that starts
in a closed set stays there: what it asks for next is again in the set, and what it looks up is the entry or
the answer of a name of the set.
-/

namespace CarbonSurvey

/-- The rules of these names mention no others. -/
def Model.Closed (model : Model) (names : Set String) : Prop :=
  ∀ name ∈ names, ∀ mention ∈ model.mentions name, mention.name ∈ names

namespace Setting

variable {left right : Setting} {names : Set String}

/-- Two settings that cannot be told apart by what they say about these names. -/
structure AgreeOn (names : Set String) (left right : Setting) : Prop where
  model : ∀ name ∈ names, right.model[name]? = left.model[name]?
  situation : ∀ name ∈ names, right.situation[name]? = left.situation[name]?
  limit : right.maxDepth = left.maxDepth

theorem AgreeOn.plan_eq (agree : AgreeOn names left right) (closed : left.model.Closed names) {goal : Goal}
    (hgoal : goal.name ∈ names) : right.plan goal = left.plan goal := by
  have same : right.plan goal = (left.plan goal).fill fun _ => none := by
    apply Plan.goal_fill (agree.model goal.name hgoal)
    intro mention hmention
    exact Situation.fillsIn_of_eq (agree.situation mention.name (closed goal.name hgoal mention hmention))
  rwa [Plan.fill_none] at same

theorem name_mem_of_mayAsk (closed : left.model.Closed names) {goal asked : Goal} (hgoal : goal.name ∈ names)
    (hasked : (left.plan goal).MayAsk asked) : asked.name ∈ names := by
  rcases Plan.mayAsk_cases hasked with needed | ⟨name, rfl, rfl, _⟩
  · exact closed goal.name hgoal _ needed
  · exact hgoal

theorem AgreeOn.pursue_eq (agree : AgreeOn names left right) (closed : left.model.Closed names)
    (stack : Stack) (goal : Goal) (hgoal : goal.name ∈ names) :
    right.pursue stack goal = left.pursue stack goal := by
  refine pursue_congr (fun goal => goal.name ∈ names) agree.limit ?_ ?_ stack goal hgoal
  · exact fun goal => agree.plan_eq closed
  · exact fun goal asked => name_mem_of_mayAsk closed

theorem AgreeOn.query_eq (agree : AgreeOn names left right) (closed : left.model.Closed names)
    (stack : Stack) {query : Query} (within : ∀ mention ∈ query.mentions, mention.name ∈ names) :
    right.query stack query = left.query stack query := by
  have same : query.plan right.situation = (query.plan left.situation).fill fun _ => none := by
    apply Query.plan_fill (fun _ _ => rfl)
    intro mention hmention
    exact Situation.fillsIn_of_eq (agree.situation mention.name (within mention hmention))
  unfold Setting.query run
  rw [same, Plan.fill_none]
  apply Plan.run_congr
  intro asked hasked
  exact agree.pursue_eq closed stack asked (within _ (Query.mentions_of_mayAsk hasked))

theorem reading_answer_congr {query : Query} (h : right.query [] query = left.query [] query) :
    (right.answer query).reading = (left.answer query).reading := by
  simp only [answer, h]
  split <;> rfl

end Setting

/-- An evaluation depends on nothing outside a closed set of names that it starts in. Two models and two
    situations that have the same entries and answers for these names give the same value, the same error
    and the same warnings, whatever is being pursued and whatever the limit is. -/
theorem evaluation_stays_within {names : Set String} {model other : Model} {situation others : Situation}
    (closed : model.Closed names)
    (agree : ∀ name ∈ names, other[name]? = model[name]? ∧ others[name]? = situation[name]?)
    (maxDepth : Nat) (query : Query) (within : ∀ mention ∈ query.mentions, mention.name ∈ names) :
    (∀ stack, Setting.query ⟨other, others, maxDepth⟩ stack query =
      Setting.query ⟨model, situation, maxDepth⟩ stack query) ∧
    (Setting.answer ⟨other, others, maxDepth⟩ query).reading =
      (Setting.answer ⟨model, situation, maxDepth⟩ query).reading := by
  have agreeOn : Setting.AgreeOn names ⟨model, situation, maxDepth⟩ ⟨other, others, maxDepth⟩ :=
    ⟨fun name hname => (agree name hname).1, fun name hname => (agree name hname).2, rfl⟩
  have same (stack : Stack) := agreeOn.query_eq closed stack within
  exact ⟨same, Setting.reading_answer_congr (same [])⟩

/-- A guard that means `a . c`, beside a rule for the name that it spells. -/
def garage : Model :=
  .ofRows [("a . b", .rule ⟨some (.text "c > 1"), some (.number 5), none⟩),
    ("a . c", .rule ⟨none, some (.number 2), none⟩), ("c", .rule ⟨none, some (.number 0), none⟩)]

/-- Neither another rule for `c` nor an answer to it makes a difference to `a . b`. -/
theorem garage_unmoved :
    garage.Closed {"a . b", "a . c"} ∧
    (∀ stack, Setting.query ⟨garage.erase "c", .ofRows [("c", .number 7)], 3⟩ stack (.value "a . b") =
      Setting.query ⟨garage, ∅, 3⟩ stack (.value "a . b")) ∧
    (Setting.answer ⟨garage.erase "c", .ofRows [("c", .number 7)], 3⟩ (.value "a . b")).reading = .number 5 := by
  have closed : garage.Closed {"a . b", "a . c"} := by
    have guarded : garage.mentions "a . b" = [.worth "a . c"] := by decide +kernel
    have unguarded : garage.mentions "a . c" = [] := by decide +kernel
    rintro name (rfl | rfl) mention hmention
    · rw [guarded] at hmention
      obtain rfl := List.mem_singleton.1 hmention
      exact .inr rfl
    · rw [unguarded] at hmention
      cases hmention
  have agree : ∀ name ∈ ({"a . b", "a . c"} : Set String),
      (garage.erase "c")[name]? = garage[name]? ∧
        (NameTable.ofRows [("c", Answer.number 7)])[name]? = (∅ : Situation)[name]? := by
    rintro name (rfl | rfl) <;> exact ⟨by decide +kernel, by decide +kernel⟩
  have within : ∀ mention ∈ Query.mentions (.value "a . b"), mention.name ∈ ({"a . b", "a . c"} : Set String) := by
    intro mention hmention
    obtain rfl := List.mem_singleton.1 hmention
    exact .inl rfl
  obtain ⟨same, reading⟩ := evaluation_stays_within closed agree 3 (.value "a . b") within
  refine ⟨closed, same, reading.trans ?_⟩
  decide +kernel

end CarbonSurvey
