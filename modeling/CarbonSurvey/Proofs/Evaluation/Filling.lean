import CarbonSurvey.Proofs.Evaluation.Mention

/-! # Answers filled in

A plan into which known defaults are filled in does not ask for them. Evaluation looks at a situation only
where a rule mentions a name, and there it looks for an answer in words or for a value. So where two
situations have the same words, and the values of one are those of the other with some defaults filled in,
its plans are those of the other with the same defaults filled in (`goal_fill`).
-/

namespace CarbonSurvey

/-- The answer to a goal if it is the default of a name that is known. -/
def Goal.known? (known : String → Option Float) : Goal → Option Float
  | .formula _ => none
  | .default name => known name

namespace Plan

variable {α β : Type} {known : String → Option Float}

/-- The plan that goes on with the known defaults in place of asking for them. -/
def fill (known : String → Option Float) : Plan α → Plan α
  | .done value => .done value
  | .ask goal next =>
    match goal.known? known with
    | some answer => (next answer).fill known
    | none => .ask goal fun answer => (next answer).fill known

@[simp]
theorem fill_done (value : α) : (done value).fill known = .done value := rfl

theorem fill_ofGoal_default (name : String) :
    (ofGoal (.default name)).fill known = (known name).elim (ofGoal (.default name)) .done := by
  simp only [ofGoal, fill, Goal.known?]
  cases known name <;> rfl

theorem fill_bind (plan : Plan α) (next : α → Plan β) :
    (plan.bind next).fill known = (plan.fill known).bind fun value => (next value).fill known := by
  induction plan with
  | done value => rfl
  | ask goal inner ih =>
      simp only [bind, fill]
      cases goal.known? known with
      | some answer => exact ih answer
      | none => simp only [bind, ih]

theorem fill_map (f : α → β) (plan : Plan α) : (plan.map f).fill known = (plan.fill known).map f := by
  simp only [map, fill_bind, fill_done]

@[simp]
theorem fill_none (plan : Plan α) : plan.fill (fun _ => none) = plan := by
  induction plan with
  | done value => rfl
  | ask goal next ih =>
      have unknown : goal.known? (fun _ => none) = none := by cases goal <;> rfl
      simp only [fill, unknown, ih]

/-- A plan comes to the same where the known defaults are what it gets for them. -/
theorem Yields.fill {answers others : Goal → Float → Prop} {plan : Plan α} {worth : α}
    (hplan : plan.Yields answers worth)
    (h : ∀ asked, plan.MayAsk asked → ∀ answer, answers asked answer →
      others asked answer ∧ ∀ filled, asked.known? known = some filled → filled = answer) :
    (plan.fill known).Yields others worth := by
  induction plan with
  | done value => exact hplan
  | ask goal next ih =>
      obtain ⟨answer, hanswer, hnext⟩ := hplan
      obtain ⟨hother, hfilled⟩ := h goal (.inl rfl) answer hanswer
      have rest : ((next answer).fill known).Yields others worth :=
        ih answer hnext fun asked hasked => h asked (.inr ⟨answer, trivial, hasked⟩)
      simp only [Plan.fill]
      cases hgoal : goal.known? known with
      | none => exact ⟨answer, hother, rest⟩
      | some filled =>
          obtain rfl := hfilled filled hgoal
          exact rest

end Plan

/-- At a name, `right` is read as `left` is with the known defaults filled in. -/
structure Situation.FillsIn (known : String → Option Float) (left right : Situation) (name : String) : Prop where
  words : ∀ text, right[name]? = some (.text text) ↔ left[name]? = some (.text text)
  value : Plan.value right name = (Plan.value left name).fill known

theorem Situation.fillsIn_of_eq {left right : Situation} {name : String} (h : right[name]? = left[name]?) :
    FillsIn (fun _ => none) left right name where
  words text := by rw [h]
  value := by simp only [Plan.value, Situation.number?, h, Plan.fill_none]

namespace Plan

variable {known : String → Option Float} {left right : Situation}

theorem comparison_fill {reference : String} (op : Operator) (literal : Operand)
    (h : left.FillsIn known right reference) :
    comparison right reference op literal = (comparison left reference op literal).fill known := by
  by_cases words : ∃ answer, left[reference]? = some (.text answer)
  · obtain ⟨answer, words⟩ := words
    simp only [comparison, words, (h.words answer).2 words, fill_done]
  · have left_wordless : ∀ answer, left[reference]? ≠ some (.text answer) :=
      fun answer hwords => words ⟨answer, hwords⟩
    have right_wordless : ∀ answer, right[reference]? ≠ some (.text answer) :=
      fun answer hwords => words ⟨answer, (h.words answer).1 hwords⟩
    rw [comparison_of_wordless left_wordless, comparison_of_wordless right_wordless, fill_map, h.value]

theorem stated_fill {text : Option String}
    (h : ∀ mention ∈ Mention.ofText text, left.FillsIn known right mention.name) :
    stated right text = (stated left text).fill known := by
  cases text with
  | none => rfl
  | some text =>
      simp only [stated, condition]
      cases hread : Condition.parse? text with
      | none => rfl
      | some read =>
          have spelled : (some text).bind Condition.parse? = some read := hread
          obtain ⟨mention, hmention, hname⟩ := Mention.exists_mem_ofText spelled
          have reads := hname ▸ h mention hmention
          obtain ⟨reference, comparison⟩ := read
          cases comparison with
          | none => simp only [fill_done, reads.words]
          | some comparison => exact comparison_fill comparison.1 comparison.2 reads

theorem total_fill (sum : Float) {references : List String}
    (h : ∀ reference ∈ references, left.FillsIn known right reference) :
    total right sum references = (total left sum references).fill known := by
  induction references generalizing sum with
  | nil => rfl
  | cons reference rest ih =>
      obtain ⟨first, others⟩ := List.forall_mem_cons.1 h
      simp only [total, fill_bind, first.value, ih _ others]

theorem settle_fill (verdict : Bool) {provisos : List Proviso}
    (h : ∀ mention ∈ provisos.flatMap fun premise => Mention.ofText premise.source?,
      left.FillsIn known right mention.name) :
    settle right verdict provisos = (settle left verdict provisos).fill known := by
  induction provisos with
  | nil => rfl
  | cons first rest ih =>
      rw [List.flatMap_cons, List.forall_mem_append] at h
      simp only [settle, fill_bind, stated_fill h.1, ih h.2]
      congr 1
      funext holds
      split <;> rfl

mutual

theorem expression_fill (owner : String) : (body : Expression) →
    (∀ mention ∈ body.mentions owner, left.FillsIn known right mention.name) →
    expression right owner body = (expression left owner body).fill known
  | .variations cases, h => choose_fill owner cases h
  | .average [], _ | .unsupported, _ => rfl
  | .average (reference :: _), h => (h (.worth reference) (List.mem_singleton_self _)).value
  | .sum references, h => by
      apply total_fill
      intro reference hreference
      exact h (.worth reference) (List.mem_map_of_mem hreference)
  | .anyOf provisos, h => by simp only [expression, fill_map, anyOf_eq_settle, settle_fill true h]
  | .allOf provisos, h => by simp only [expression, fill_map, allOf_eq_settle, settle_fill false h]

theorem choose_fill (owner : String) : (cases : Cases) →
    (∀ mention ∈ cases.mentions owner, left.FillsIn known right mention.name) →
    choose right owner cases = (choose left owner cases).fill known
  | .done, _ => rfl
  | .otherwise fallback, h => nested_fill owner (.done 0.0) fallback h
  | .clause premise branch rest, h => by
      simp only [Cases.mentions, List.forall_mem_append] at h
      obtain ⟨hpremise, hbranch, hrest⟩ := h
      simp only [choose, completed_eq_stated, fill_bind, stated_fill hpremise]
      congr 1
      funext holds
      cases holds with
      | true =>
          have plain_done : (plain branch).fill known = plain branch := by cases branch <;> rfl
          have filled := nested_fill owner (plain branch) branch hbranch
          rwa [plain_done] at filled
      | false => exact choose_fill owner rest hrest

theorem nested_fill (owner : String) (otherwise : Plan Float) : (branch : Branch) →
    (∀ mention ∈ branch.mentions owner, left.FillsIn known right mention.name) →
    nested right owner (otherwise.fill known) branch = (nested left owner otherwise branch).fill known
  | .number _, _ | .text _, _ => rfl
  | .formula body, h => expression_fill owner body h

end

/-! ## Goals, and the models they belong to -/

variable {model other : Model} {name : String}

theorem formula_fill (hentry : other[name]? = model[name]?)
    (h : ∀ mention ∈ model.mentions name, left.FillsIn known right mention.name) :
    formula other right name = (formula model left name).fill known := by
  simp only [formula, hentry]
  cases found : model[name]? with
  | none => rfl
  | some entry =>
      simp only
      split
      · rfl
      · split
        · next body hbody =>
          apply expression_fill
          intro mention hmention
          exact h mention (Model.expression_subset_mentions found hbody hmention)
        · rfl

theorem guard_fill {rule : Rule} (found : model[name]? = some (.rule rule))
    (h : ∀ mention ∈ model.mentions name, left.FillsIn known right mention.name) :
    guard right name rule = (guard left name rule).fill known := by
  have guard_mentions := Model.guard_subset_mentions found
  unfold guard
  cases hguard : rule.applicableIf with
  | none => rfl
  | some premise =>
      rw [hguard] at guard_mentions
      simp only [completed_eq_stated]
      apply stated_fill
      intro mention hmention
      exact h mention (guard_mentions hmention)

/-- The default of a rule that applies only ever is a number or another formula. -/
theorem ruleDefault_fill (name : String) (rule : Rule) :
    (ruleDefault name rule).fill known = ruleDefault name rule := by
  unfold ruleDefault
  split
  · rfl
  · rfl
  · split <;> rfl

theorem default_fill (hentry : other[name]? = model[name]?)
    (h : ∀ mention ∈ model.mentions name, left.FillsIn known right mention.name) :
    default other right name = (default model left name).fill known := by
  simp only [default, hentry]
  cases found : model[name]? with
  | none => rfl
  | some entry =>
      cases entry with
      | bare number => rfl
      | rule rule =>
          simp only [fill_bind, guard_fill found h]
          congr 1
          funext applies
          cases applies with
          | true => exact (ruleDefault_fill name rule).symm
          | false => rfl

theorem goal_fill {goal : Goal} (hentry : other[goal.name]? = model[goal.name]?)
    (h : ∀ mention ∈ model.mentions goal.name, left.FillsIn known right mention.name) :
    Plan.goal other right goal = (Plan.goal model left goal).fill known := by
  cases goal with
  | formula name => exact formula_fill hentry h
  | default name => exact default_fill hentry h

end Plan

/-- A query fills in like what it mentions, as long as it is not about a known default itself. -/
theorem Query.plan_fill {known : String → Option Float} {left right : Situation} {query : Query}
    (unknown : ∀ name, query = .default name → known name = none)
    (h : ∀ mention ∈ query.mentions, left.FillsIn known right mention.name) :
    query.plan right = (query.plan left).fill known := by
  cases query with
  | rule name => rfl
  | default name =>
      simp only [plan, Plan.fill_map, Plan.fill_ofGoal_default, unknown name rfl, Option.elim_none]
  | value reference =>
      have same : Plan.value right reference = (Plan.value left reference).fill known :=
        (h (.worth reference) (List.mem_singleton_self _)).value
      simp only [plan, Plan.fill_map, same]
  | condition text =>
      have same : Plan.stated right (some text) = (Plan.stated left (some text)).fill known := Plan.stated_fill h
      simp only [Plan.stated] at same
      simp only [plan, Plan.fill_map, same]

end CarbonSurvey
