import CarbonSurvey.Proofs.Evaluation.Waiting

/-! # What rules mention

A rule refers to other names in its guard, its default and its formula, and these references can be read
off the model without evaluating anything. Formulas ask for defaults alone, and whatever a goal asks for is
mentioned by the rule of its name, or is the formula that the rule has for a default (`mayAsk_cases`).
-/

namespace CarbonSurvey

/-- A reference that a rule makes. Sums, averages, comparisons and defaults need what the name is worth,
    and a bare condition needs to know how it was answered. -/
inductive Mention where
  | worth (name : String)
  | answer (name : String)
  deriving Repr, DecidableEq

namespace Mention

def name : Mention → String
  | .worth name => name
  | .answer name => name

/-- The reference that a condition makes, if it can be read. -/
def ofText (text : Option String) : List Mention :=
  match text.bind Condition.parse? with
  | none => []
  | some ⟨reference, none⟩ => [.answer reference]
  | some ⟨reference, some _⟩ => [.worth reference]

theorem worth_mem_ofText {text : Option String} {read : Condition}
    (hread : text.bind Condition.parse? = some read) (compares : read.comparison.isSome) :
    .worth read.reference ∈ ofText text := by
  obtain ⟨reference, comparison⟩ := read
  cases comparison with
  | none => cases compares
  | some comparison => simp [ofText, hread]

theorem exists_mem_ofText {text : Option String} {read : Condition}
    (hread : text.bind Condition.parse? = some read) : ∃ mention ∈ ofText text, mention.name = read.reference := by
  obtain ⟨reference, comparison⟩ := read
  cases comparison with
  | none => exact ⟨.answer reference, by simp [ofText, hread], rfl⟩
  | some comparison => exact ⟨.worth reference, by simp [ofText, hread], rfl⟩

end Mention

mutual

/-- The references of a formula of the rule `owner`, those of the formulas inside it included. Of an
    average only the first counts. -/
def Expression.mentions (owner : String) : Expression → List Mention
  | .variations cases => cases.mentions owner
  | .average [] => []
  | .average (reference :: _) => [.worth reference]
  | .sum references => references.map .worth
  | .anyOf provisos => provisos.flatMap fun premise => Mention.ofText premise.source?
  | .allOf provisos => provisos.flatMap fun premise => Mention.ofText premise.source?
  | .unsupported => []

def Cases.mentions (owner : String) : Cases → List Mention
  | .done => []
  | .otherwise branch => branch.mentions owner
  | .clause premise branch rest =>
    Mention.ofText (premise.completed? owner) ++ (branch.mentions owner ++ rest.mentions owner)

def Branch.mentions (owner : String) : Branch → List Mention
  | .number _ => []
  | .text _ => []
  | .formula body => body.mentions owner

end

/-- The reference that a default makes, completed with the name of its rule. -/
def Default.mentions (owner : String) : Default → List Mention
  | .number _ => []
  | .reference name => [.worth (DottedName.merge owner name)]

def Formula.mentions (owner : String) : Formula → List Mention
  | .constant _ => []
  | .expression body => body.mentions owner

/-- The references of the rule `owner`. -/
def Rule.mentions (owner : String) (rule : Rule) : List Mention :=
  Mention.ofText (rule.applicableIf.bind (Proviso.completed? owner)) ++
    (rule.default.elim [] (Default.mentions owner) ++ rule.formula.elim [] (Formula.mentions owner))

namespace Model

/-- The references of a name. A name that has no rule makes none. -/
def mentions (model : Model) (name : String) : List Mention :=
  (model.rule? name).elim [] (Rule.mentions name)

/-- What `name` is worth may depend on what `other` is worth. -/
def Needs (model : Model) (name other : String) : Prop :=
  .worth other ∈ model.mentions name

/-- The name has a rule with a formula and nothing else for a default. -/
def IsComputed (model : Model) (name : String) : Prop :=
  ∃ rule, model.rule? name = some rule ∧ rule.default = none ∧ rule.formula.isSome

end Model

/-- The names a query starts from. -/
def Query.mentions : Query → List Mention
  | .rule name => [.worth name]
  | .value reference => [.worth reference]
  | .default name => [.worth name]
  | .condition text => Mention.ofText (some text)

variable {model : Model} {situation : Situation}

namespace Model

theorem mentions_of_rule {name : String} {rule : Rule} (found : model[name]? = some (.rule rule)) :
    model.mentions name = rule.mentions name := by
  simp [mentions, rule?, found, Entry.rule?]

theorem guard_subset_mentions {name : String} {rule : Rule} (found : model[name]? = some (.rule rule)) :
    Mention.ofText (rule.applicableIf.bind (Proviso.completed? name)) ⊆ model.mentions name := by
  rw [mentions_of_rule found]
  exact List.subset_append_left _ _

theorem expression_subset_mentions {name : String} {entry : Entry} {body : Expression}
    (found : model[name]? = some entry) (hbody : entry.expression? = some body) :
    body.mentions name ⊆ model.mentions name := by
  match entry, hbody with
  | .rule ⟨applicableIf, default, some (.expression body)⟩, rfl =>
    rw [mentions_of_rule found]
    exact List.Subset.trans (List.subset_append_right _ _) (List.subset_append_right _ _)

end Model

namespace Plan

variable {α β : Type}

/-- Whatever the plan asks for, it is the default of a name whose worth is mentioned. -/
def AsksWithin (mentions : List Mention) (plan : Plan α) : Prop :=
  ∀ asked, plan.MayAsk asked → ∃ name, .worth name ∈ mentions ∧ asked = .default name

theorem AsksWithin.mono {small large : List Mention} {plan : Plan α} (h : plan.AsksWithin small)
    (hsub : small ⊆ large) : plan.AsksWithin large := by
  intro asked hasked
  obtain ⟨name, hname, rfl⟩ := h asked hasked
  exact ⟨name, hsub hname, rfl⟩

theorem asksWithin_done {mentions : List Mention} (value : α) : (done value).AsksWithin mentions :=
  fun _ hasked => hasked.elim

theorem AsksWithin.bind {first rest : List Mention} {plan : Plan α} {next : α → Plan β}
    (h : plan.AsksWithin first) (hnext : ∀ middle, (next middle).AsksWithin rest) :
    (plan.bind next).AsksWithin (first ++ rest) := by
  intro asked hasked
  rcases hasked.bind_cases with hplan | ⟨middle, hmiddle⟩
  · exact h.mono (List.subset_append_left first rest) asked hplan
  · exact (hnext middle).mono (List.subset_append_right first rest) asked hmiddle

theorem AsksWithin.map {f : α → β} {mentions : List Mention} {plan : Plan α} (h : plan.AsksWithin mentions) :
    (plan.map f).AsksWithin mentions :=
  fun asked hasked => h asked (mayAsk_map.1 hasked)

/-! ## Formulas ask for the defaults of what they mention -/

/-- Conditions are tried in turn. The first that comes out as `verdict` settles the matter. -/
def settle (situation : Situation) (verdict : Bool) : List Proviso → Plan Bool
  | [] => .done !verdict
  | first :: rest =>
    (stated situation first.source?).bind fun holds =>
      if holds = verdict then .done verdict else settle situation verdict rest

theorem anyOf_eq_settle (provisos : List Proviso) : anyOf situation provisos = settle situation true provisos := by
  induction provisos with
  | nil => rfl
  | cons first rest ih => rw [anyOf, settle, proviso_eq_stated, ih]

theorem allOf_eq_settle (provisos : List Proviso) : allOf situation provisos = settle situation false provisos := by
  induction provisos with
  | nil => rfl
  | cons first rest ih =>
      rw [allOf, settle, proviso_eq_stated, ih]
      congr 1
      funext holds
      cases holds <;> rfl

theorem asksWithin_value (reference : String) :
    (value situation reference).AsksWithin [.worth reference] :=
  fun _ hasked => ⟨reference, List.mem_singleton_self _, (mayAsk_value.1 hasked).2⟩

theorem asksWithin_stated (text : Option String) :
    (stated situation text).AsksWithin (Mention.ofText text) := by
  intro asked hasked
  obtain ⟨read, hread, compares, _, rfl⟩ := mayAsk_stated.1 hasked
  exact ⟨read.reference, Mention.worth_mem_ofText hread compares, rfl⟩

theorem asksWithin_total (sum : Float) (references : List String) :
    (total situation sum references).AsksWithin (references.map .worth) := by
  induction references generalizing sum with
  | nil => exact asksWithin_done sum
  | cons reference rest ih => exact (asksWithin_value reference).bind fun answer => ih (sum + answer)

theorem asksWithin_settle (verdict : Bool) (provisos : List Proviso) :
    (settle situation verdict provisos).AsksWithin
      (provisos.flatMap fun premise => Mention.ofText premise.source?) := by
  induction provisos with
  | nil => exact asksWithin_done _
  | cons first rest ih =>
      rw [settle, List.flatMap_cons]
      apply (asksWithin_stated first.source?).bind
      intro holds
      split
      · exact asksWithin_done verdict
      · exact ih

mutual

theorem asksWithin_expression (owner : String) : (body : Expression) →
    (expression situation owner body).AsksWithin (body.mentions owner)
  | .variations cases => asksWithin_choose owner cases
  | .average [] | .unsupported => asksWithin_done 0.0
  | .average (reference :: _) => asksWithin_value reference
  | .sum references => asksWithin_total 0.0 references
  | .anyOf provisos => by
      rw [expression, anyOf_eq_settle]
      exact (asksWithin_settle true provisos).map
  | .allOf provisos => by
      rw [expression, allOf_eq_settle]
      exact (asksWithin_settle false provisos).map

theorem asksWithin_choose (owner : String) : (cases : Cases) →
    (choose situation owner cases).AsksWithin (cases.mentions owner)
  | .done => asksWithin_done 0.0
  | .otherwise fallback => asksWithin_nested owner fallback (asksWithin_done 0.0)
  | .clause premise branch rest => by
      rw [choose, completed_eq_stated]
      refine (asksWithin_stated (premise.completed? owner)).bind fun holds => ?_
      have plain_done : (plain branch).AsksWithin (branch.mentions owner) := by
        cases branch <;> exact asksWithin_done _
      cases holds with
      | true => exact (asksWithin_nested owner branch plain_done).mono (List.subset_append_left _ _)
      | false => exact (asksWithin_choose owner rest).mono (List.subset_append_right _ _)

theorem asksWithin_nested (owner : String) {otherwise : Plan Float} : (branch : Branch) →
    otherwise.AsksWithin (branch.mentions owner) →
    (nested situation owner otherwise branch).AsksWithin (branch.mentions owner)
  | .number _, h | .text _, h => h
  | .formula body, _ => asksWithin_expression owner body

end

theorem asksWithin_formula (name : String) :
    (Plan.goal model situation (.formula name)).AsksWithin (model.mentions name) := by
  simp only [Plan.goal, formula]
  split
  · exact asksWithin_done 0.0
  · next entry found =>
    split
    · exact asksWithin_done _
    · split
      · next body hbody =>
        exact (asksWithin_expression name body).mono (Model.expression_subset_mentions found hbody)
      · exact asksWithin_done 0.0

/-! ## Defaults ask for what they mention or for the formula of their name -/

theorem asksWithin_guard {name : String} {rule : Rule} (found : model[name]? = some (.rule rule)) :
    (guard situation name rule).AsksWithin (model.mentions name) := by
  have guard_mentions := Model.guard_subset_mentions found
  unfold guard
  cases hguard : rule.applicableIf with
  | none => exact asksWithin_done true
  | some premise =>
      simp only [completed_eq_stated]
      rw [hguard] at guard_mentions
      exact (asksWithin_stated _).mono guard_mentions

theorem mayAsk_ruleDefault_cases {name : String} {rule : Rule} {asked : Goal}
    (found : model[name]? = some (.rule rule)) (h : (ruleDefault name rule).MayAsk asked) :
    model.Needs name asked.name ∨ asked = .formula name ∧ model.IsComputed name := by
  unfold ruleDefault at h
  split at h
  · exact h.elim
  · next reference hdefault =>
    rw [mayAsk_ofGoal] at h
    left
    rw [h, Model.Needs, Model.mentions_of_rule found, Rule.mentions, hdefault]
    simp [Default.mentions, Goal.name]
  · next hdefault =>
    split at h
    · next computed =>
      rw [mayAsk_ofGoal] at h
      exact .inr ⟨h, rule, by simp [Model.rule?, found, Entry.rule?], hdefault, computed⟩
    · exact h.elim

/-- What a goal asks for is needed by its name, unless a default stands for the formula of its own name. -/
theorem mayAsk_cases {goal asked : Goal} (h : (Plan.goal model situation goal).MayAsk asked) :
    model.Needs goal.name asked.name ∨
      ∃ name, goal = .default name ∧ asked = .formula name ∧ model.IsComputed name := by
  cases goal with
  | formula name =>
      obtain ⟨other, needed, rfl⟩ := asksWithin_formula name asked h
      exact .inl needed
  | default name =>
      obtain ⟨rule, found⟩ := rule_of_mayAsk h
      rw [goal_default_of_rule found] at h
      rcases h.bind_cases with hguard | ⟨applies, hdefault⟩
      · obtain ⟨other, needed, rfl⟩ := asksWithin_guard found asked hguard
        exact .inl needed
      · cases applies with
        | true =>
            refine (mayAsk_ruleDefault_cases found hdefault).imp_right fun own => ?_
            exact ⟨name, rfl, own.1, own.2⟩
        | false => exact hdefault.elim

end Plan

theorem Query.mentions_of_mayAsk {query : Query} {asked : Goal} (h : (query.plan situation).MayAsk asked) :
    .worth asked.name ∈ query.mentions := by
  cases query with
  | rule name | default name =>
      obtain rfl := Plan.mayAsk_ofGoal.1 (Plan.mayAsk_map.1 h)
      exact List.mem_singleton_self _
  | value reference =>
      obtain ⟨name, hname, rfl⟩ := Plan.asksWithin_value reference asked (Plan.mayAsk_map.1 h)
      exact hname
  | condition text =>
      obtain ⟨name, hname, rfl⟩ := Plan.asksWithin_stated (some text) asked (Plan.mayAsk_map.1 h)
      exact hname

end CarbonSurvey
