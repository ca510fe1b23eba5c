import CarbonSurvey.Proofs.DottedName.Merging
import CarbonSurvey.Proofs.Evaluation.Mention
import CarbonSurvey.Proofs.Evaluation.Worth
import CarbonSurvey.Proofs.RelatedOptions

/-! # Models written in another way

The same rules can be written in several ways. Conditions and defaults may name what they refer to in full, the
conditions of an any-of or all-of may come in another order, and what evaluation never looks at may be left out.
None of this changes a value, in cyclic models either: the goals of a model stay the same, and so does what they
are worth on each stack.
-/

namespace CarbonSurvey

/-! ## What may be written differently -/

/-- A condition of the rule `owner` as it stands, or completed with the name of the rule. -/
inductive Proviso.Rewrites (owner : String) : Proviso → Proviso → Prop where
  | same {premise} : Rewrites owner premise premise
  | completed {source} : Rewrites owner (.text source) (.text (DottedName.merge owner source))

mutual

inductive Expression.Rewrites (owner : String) : Expression → Expression → Prop where
  | same {body} : Expression.Rewrites owner body body
  | variations {cases others} : Cases.Rewrites owner cases others →
      Expression.Rewrites owner (.variations cases) (.variations others)
  /-- Only the first reference of an average counts. -/
  | average {reference rest} :
      Expression.Rewrites owner (.average (reference :: rest)) (.average [reference])
  | anyOf {provisos others} : provisos.Perm others →
      Expression.Rewrites owner (.anyOf provisos) (.anyOf others)
  | allOf {provisos others} : provisos.Perm others →
      Expression.Rewrites owner (.allOf provisos) (.allOf others)

inductive Cases.Rewrites (owner : String) : Cases → Cases → Prop where
  | done : Cases.Rewrites owner .done .done
  | otherwise {branch other} : Branch.Rewrites owner branch other →
      Cases.Rewrites owner (.otherwise branch) (.otherwise other)
  /-- A fallback that is no formula gives zero, as no fallback does. -/
  | dropped {branch} : (∀ body, branch ≠ .formula body) → Cases.Rewrites owner (.otherwise branch) .done
  | clause {premise premise' branch branch' rest rest'} : Proviso.Rewrites owner premise premise' →
      Branch.Rewrites owner branch branch' → Cases.Rewrites owner rest rest' →
      Cases.Rewrites owner (.clause premise branch rest) (.clause premise' branch' rest')

inductive Branch.Rewrites (owner : String) : Branch → Branch → Prop where
  | same {branch} : Branch.Rewrites owner branch branch
  | formula {body other} : Expression.Rewrites owner body other →
      Branch.Rewrites owner (.formula body) (.formula other)

end

inductive Formula.Rewrites (owner : String) : Formula → Formula → Prop where
  | constant {value} : Rewrites owner (.constant value) (.constant value)
  | expression {body other} : Expression.Rewrites owner body other →
      Rewrites owner (.expression body) (.expression other)

inductive Default.Rewrites (owner : String) : Default → Default → Prop where
  | same {default} : Rewrites owner default default
  | completed {name} : Rewrites owner (.reference name) (.reference (DottedName.merge owner name))

structure Rule.Rewrites (owner : String) (rule other : Rule) : Prop where
  applicableIf : Option.Rel (Proviso.Rewrites owner) rule.applicableIf other.applicableIf
  default : Option.Rel (Default.Rewrites owner) rule.default other.default
  formula : Option.Rel (Formula.Rewrites owner) rule.formula other.formula

inductive Entry.Rewrites (owner : String) : Entry → Entry → Prop where
  | rule {rule other} : Rule.Rewrites owner rule other → Rewrites owner (.rule rule) (.rule other)
  | bare {value} : Rewrites owner (.bare value) (.bare value)

/-- The models have the same names, and at each of them the second has what the first has, perhaps written
    in another way. -/
def Model.Rewrites (model other : Model) : Prop :=
  ∀ name, Option.Rel (Entry.Rewrites name) model[name]? other[name]?

variable {model other : Model} {situation : Situation} {answers : Goal → Float} {owner : String}

/-! ## Plans of what is written differently -/

namespace Plan

theorem completed_eq_of_rewrites {premise premise' : Proviso} (h : premise.Rewrites owner premise') :
    completed situation owner premise' = completed situation owner premise := by
  cases h with
  | same => rfl
  | completed => rw [completed, completed, DottedName.merge_merge]

/-- The conditions come to the verdict if one of them does, wherever it stands. -/
theorem worth_settle (verdict : Bool) (provisos : List Proviso) :
    (settle situation verdict provisos).worth answers =
      if provisos.any fun premise => (stated situation premise.source?).worth answers = verdict then verdict
      else !verdict := by
  induction provisos with
  | nil => rfl
  | cons first rest ih =>
      rw [settle, worth_bind, List.any_cons]
      by_cases settled : (stated situation first.source?).worth answers = verdict
      · simp [settled]
      · simp [settled, ih]

theorem worth_settle_perm (verdict : Bool) {provisos others : List Proviso} (h : provisos.Perm others) :
    (settle situation verdict others).worth answers = (settle situation verdict provisos).worth answers := by
  rw [worth_settle, worth_settle, h.any_eq]

mutual

theorem worth_expression_of_rewrites {body body' : Expression} (h : Expression.Rewrites owner body body') :
    (expression situation owner body').worth answers = (expression situation owner body).worth answers := by
  cases h with
  | same | average => rfl
  | variations h => exact worth_choose_of_rewrites h
  | anyOf h => simp only [expression, worth_map, anyOf_eq_settle, worth_settle_perm true h]
  | allOf h => simp only [expression, worth_map, allOf_eq_settle, worth_settle_perm false h]

theorem worth_choose_of_rewrites {cases cases' : Cases} (h : Cases.Rewrites owner cases cases') :
    (choose situation owner cases').worth answers = (choose situation owner cases).worth answers := by
  cases h with
  | done => rfl
  | otherwise h => exact worth_nested_of_rewrites h (.done 0.0)
  | @dropped branch hplain =>
      cases branch with
      | number value | text value => rfl
      | formula body => exact absurd rfl (hplain body)
  | @clause premise _ branch branch' rest rest' hpremise hbranch hrest =>
      have same_plain : plain branch' = plain branch := by cases hbranch <;> rfl
      simp only [choose, worth_bind, completed_eq_of_rewrites hpremise, same_plain]
      split
      · exact worth_nested_of_rewrites hbranch (plain branch)
      · exact worth_choose_of_rewrites hrest

theorem worth_nested_of_rewrites {branch branch' : Branch} (h : Branch.Rewrites owner branch branch')
    (otherwise : Plan Float) : (nested situation owner otherwise branch').worth answers =
      (nested situation owner otherwise branch).worth answers := by
  cases h with
  | same => rfl
  | formula h => exact worth_expression_of_rewrites h

end

end Plan

/-! ## Entries that are written differently -/

namespace Entry.Rewrites

variable {entry entry' : Entry}

theorem constant?_eq (h : entry.Rewrites owner entry') : entry'.constant? = entry.constant? := by
  cases h with
  | bare => rfl
  | @rule rule rule' h =>
      obtain ⟨guard, default, formula⟩ := rule
      obtain ⟨guard', default', formula'⟩ := rule'
      have hformula : Option.Rel (Formula.Rewrites owner) formula formula' := h.formula
      cases hformula with
      | none => rfl
      | some hformula => cases hformula <;> rfl

theorem expression?_rel (h : entry.Rewrites owner entry') :
    Option.Rel (Expression.Rewrites owner) entry.expression? entry'.expression? := by
  cases h with
  | bare => exact .none
  | @rule rule rule' h =>
      obtain ⟨guard, default, formula⟩ := rule
      obtain ⟨guard', default', formula'⟩ := rule'
      have hformula : Option.Rel (Formula.Rewrites owner) formula formula' := h.formula
      cases hformula with
      | none => exact .none
      | some hformula =>
          cases hformula with
          | constant => exact .none
          | expression hbody => exact .some hbody

/-- The entry has the same goals. -/
theorem entryGoals_eq (h : entry.Rewrites owner entry') :
    Model.entryGoals (owner, entry') = Model.entryGoals (owner, entry) := by
  have same_isSome := isSome_eq_of_rel h.expression?_rel
  cases h with
  | bare => rfl
  | rule => simp only [Model.entryGoals, same_isSome]

end Entry.Rewrites

theorem Model.Rewrites.goals_subset (h : model.Rewrites other) : other.goals ⊆ model.goals := by
  intro goal hgoal
  obtain ⟨⟨name, entry'⟩, hrow, hgoal⟩ := List.mem_flatMap.1 hgoal
  have found' : other[name]? = some entry' := Std.ExtTreeMap.mem_toList_iff_getElem?_eq_some.1 hrow
  have hentry := h name
  rw [found'] at hentry
  cases found : model[name]? with
  | none => rw [found] at hentry; cases hentry
  | some entry =>
      rw [found] at hentry
      cases hentry with
      | some hentry => exact mem_goals_of_entry found (hentry.entryGoals_eq ▸ hgoal)

namespace Plan

variable {name : String}

theorem worth_formula_of_rewrites (h : model.Rewrites other) :
    (formula other situation name).worth answers = (formula model situation name).worth answers := by
  have hentry := h name
  unfold formula
  generalize model[name]? = found, other[name]? = found' at hentry ⊢
  cases hentry with
  | none => rfl
  | @some entry entry' hentry =>
      have hbody := hentry.expression?_rel
      simp only [hentry.constant?_eq]
      split
      · rfl
      · generalize entry.expression? = body, entry'.expression? = body' at hbody ⊢
        cases hbody with
        | none => rfl
        | some hbody => exact worth_expression_of_rewrites hbody

theorem guard_eq_of_rewrites {rule rule' : Rule} (h : rule.Rewrites name rule') :
    guard situation name rule' = guard situation name rule := by
  have hguard := h.applicableIf
  unfold guard
  generalize rule.applicableIf = premise, rule'.applicableIf = premise' at hguard ⊢
  cases hguard with
  | none => rfl
  | some hguard => exact completed_eq_of_rewrites hguard

theorem ruleDefault_eq_of_rewrites {rule rule' : Rule} (h : rule.Rewrites name rule') :
    ruleDefault name rule' = ruleDefault name rule := by
  have hdefault := h.default
  unfold ruleDefault
  rw [isSome_eq_of_rel h.formula]
  generalize rule.default = default, rule'.default = default' at hdefault ⊢
  cases hdefault with
  | none => rfl
  | some hdefault =>
      cases hdefault with
      | same => rfl
      | completed => simp only [DottedName.merge_merge]

/-- Defaults are even planned in the same way. -/
theorem default_eq_of_rewrites (h : model.Rewrites other) :
    default other situation name = default model situation name := by
  have hentry := h name
  unfold default
  generalize model[name]? = found, other[name]? = found' at hentry ⊢
  cases hentry with
  | none => rfl
  | some hentry =>
      cases hentry with
      | bare => rfl
      | rule hrule => simp only [guard_eq_of_rewrites hrule, ruleDefault_eq_of_rewrites hrule]

theorem worth_goal_of_rewrites (h : model.Rewrites other) (goal : Goal) :
    (Plan.goal other situation goal).worth answers = (Plan.goal model situation goal).worth answers := by
  cases goal with
  | formula name => exact worth_formula_of_rewrites h
  | default name => exact congrArg (Plan.worth answers) (default_eq_of_rewrites h)

end Plan

namespace Setting

variable {stack : Stack} {maxDepth : Nat}

/-- A goal comes to the same value on each stack that the model has room for. The plans of both models run one
    level up, where the goals that either of them asks for come to the same. -/
theorem result_pursue_of_rewrites (rewrites : model.Rewrites other) (goal : Goal)
    (h : Setting.Roomy ⟨model, situation, maxDepth⟩ stack) :
    (pursue ⟨other, situation, maxDepth⟩ stack goal).result =
      (pursue ⟨model, situation, maxDepth⟩ stack goal).result := by
  induction stack, goal using goals_induction ⟨model, situation, maxDepth⟩ with
  | step stack goal ih =>
      by_cases hstack : goal ∈ stack
      · rw [pursue_of_mem hstack, pursue_of_mem hstack]
      have hopen : ¬ (goal.isFormula ∧ maxDepth ≤ stack.nesting) :=
        fun deep => Nat.not_le_of_lt h.shallow deep.2
      rw [result_pursue_of_not_mem h hstack, pursue_of_open hstack hopen]
      -- what the new plan asks for need not be what the old one does, but the goal is one of the model's
      have rewritten : (Plan.run (pursue ⟨other, situation, maxDepth⟩ (goal :: stack))
            (Plan.goal other situation goal)).result =
          .ok ((Plan.goal other situation goal).worth (worth ⟨model, situation, maxDepth⟩ (goal :: stack))) := by
        apply Plan.result_run
        intro asked hasked
        have hgoal : goal ∈ model.goals := rewrites.goals_subset (Plan.mem_goals_of_mayAsk hasked)
        have roomy := h.push hstack hgoal
        exact (ih hstack hgoal asked roomy).trans (result_pursue roomy asked)
      rw [Plan.worth_goal_of_rewrites rewrites] at rewritten
      exact rewritten

theorem result_query_of_rewrites (rewrites : model.Rewrites other) (query : Query)
    (room : model.expressionCount < maxDepth) :
    (Setting.query ⟨other, situation, maxDepth⟩ [] query).result =
      (Setting.query ⟨model, situation, maxDepth⟩ [] query).result := by
  have roomy : Setting.Roomy ⟨model, situation, maxDepth⟩ [] := .nil room
  have original := result_run roomy (query.plan situation)
  refine Eq.trans (Plan.result_run fun asked _ => ?_) original.symm
  exact (result_pursue_of_rewrites rewrites asked roomy).trans (result_pursue roomy asked)

end Setting

/-- Writing a model in another way changes no value. With room for all formulas of the model, every query comes
    to the same answer in both, cyclic models included, and no evaluation fails. -/
theorem rewriting_keeps_readings {model other : Model} (rewrites : model.Rewrites other) (situation : Situation)
    {maxDepth : Nat} (room : model.expressionCount < maxDepth) (query : Query) :
    ∃ reading, (Setting.query ⟨model, situation, maxDepth⟩ [] query).result = .ok reading ∧
      (Setting.query ⟨other, situation, maxDepth⟩ [] query).result = .ok reading ∧
      (Setting.answer ⟨model, situation, maxDepth⟩ query).reading = reading ∧
      (Setting.answer ⟨other, situation, maxDepth⟩ query).reading = reading := by
  obtain ⟨reading, original⟩ : ∃ reading,
      (Setting.query ⟨model, situation, maxDepth⟩ [] query).result = .ok reading := Setting.query_result query room
  have rewritten := (Setting.result_query_of_rewrites rewrites query room).trans original
  refine ⟨reading, original, rewritten, ?_, ?_⟩
  · rw [Setting.answer_of_ok original]
  · rw [Setting.answer_of_ok rewritten]

/-! ## Models that are written differently -/

namespace Model

theorem rewrites_empty : Rewrites ∅ ∅ := by
  intro name
  simp only [Std.ExtTreeMap.getElem?_empty]
  exact .none

/-- Models are written differently one name at a time. -/
theorem Rewrites.insert {name : String} {entry entry' : Entry} (h : model.Rewrites other)
    (hentry : entry.Rewrites name entry') :
    Rewrites (model.insert name entry) (other.insert name entry') := by
  intro asked
  simp only [Std.ExtTreeMap.getElem?_insert]
  split
  · next same =>
    obtain rfl : name = asked := by simpa using same
    exact .some hentry
  · exact h asked

end Model

/-- Two rules that need each other, an average and a name with a default. -/
def tangle : Model :=
  .ofRows [("a . b", .rule ⟨some (.text "c > 1"), some (.reference "c"),
      some (.expression (.anyOf [.text "a . c > 2", .text "a . d < 5"]))⟩),
    ("a . c", .rule ⟨none, none, some (.expression
      (.variations (.clause (.text "b > 0") (.number 7) (.otherwise (.number 3)))))⟩),
    ("a . d", .rule ⟨none, none, some (.expression (.average ["a . e", "a . c"]))⟩),
    ("a . e", .rule ⟨none, some (.number 4), none⟩)]

/-- The same with all references in full and without what does not count. -/
def tangleInFull : Model :=
  .ofRows [("a . b", .rule ⟨some (.text "a . c > 1"), some (.reference "a . c"),
      some (.expression (.anyOf [.text "a . d < 5", .text "a . c > 2"]))⟩),
    ("a . c", .rule ⟨none, none, some (.expression
      (.variations (.clause (.text "a . b > 0") (.number 7) .done)))⟩),
    ("a . d", .rule ⟨none, none, some (.expression (.average ["a . e"]))⟩),
    ("a . e", .rule ⟨none, some (.number 4), none⟩)]

/-- The formula of `a . b` comes to one in both. The condition that settles the matter comes first in one of them,
    and there is no warning of the cycle there. -/
theorem tangle_in_full :
    tangle.Rewrites tangleInFull ∧ tangle.expressionCount < 4 ∧
    (Setting.answer ⟨tangle, ∅, 4⟩ (.rule "a . b")).reading = .number 1 ∧
    (Setting.answer ⟨tangleInFull, ∅, 4⟩ (.rule "a . b")).reading = .number 1 ∧
    (Setting.query ⟨tangle, ∅, 4⟩ [] (.rule "a . b")).warnings =
      [⟨"a . c", ["a . c", "a . c", "a . b", "a . c"]⟩] ∧
    (Setting.query ⟨tangleInFull, ∅, 4⟩ [] (.rule "a . b")).warnings = [] := by
  have guard : DottedName.merge "a . b" "c > 1" = "a . c > 1" := by decide +kernel
  have default : DottedName.merge "a . b" "c" = "a . c" := by decide +kernel
  have premise : DottedName.merge "a . c" "b > 0" = "a . b > 0" := by decide +kernel
  have entry_b : Rule.Rewrites "a . b"
      ⟨some (.text "c > 1"), some (.reference "c"),
        some (.expression (.anyOf [.text "a . c > 2", .text "a . d < 5"]))⟩
      ⟨some (.text "a . c > 1"), some (.reference "a . c"),
        some (.expression (.anyOf [.text "a . d < 5", .text "a . c > 2"]))⟩ :=
    ⟨.some (guard ▸ .completed), .some (default ▸ .completed), .some (.expression (.anyOf (.swap _ _ [])))⟩
  have entry_c : Rule.Rewrites "a . c"
      ⟨none, none, some (.expression
        (.variations (.clause (.text "b > 0") (.number 7) (.otherwise (.number 3)))))⟩
      ⟨none, none, some (.expression (.variations (.clause (.text "a . b > 0") (.number 7) .done)))⟩ :=
    ⟨.none, .none, .some (.expression (.variations (.clause (premise ▸ .completed) .same (.dropped nofun))))⟩
  have rewrites : tangle.Rewrites tangleInFull :=
    (((Model.rewrites_empty.insert (.rule entry_b)).insert (.rule entry_c)).insert
      (.rule ⟨.none, .none, .some (.expression .average)⟩)).insert (.rule ⟨.none, .some .same, .none⟩)
  have room : tangle.expressionCount < 4 := by decide +kernel
  have found : (Setting.query ⟨tangle, ∅, 4⟩ [] (.rule "a . b")).result = .ok (.number 1) := by decide +kernel
  obtain ⟨reading, original, -, read, read_in_full⟩ := rewriting_keeps_readings rewrites ∅ room (.rule "a . b")
  obtain rfl := Except.ok.inj (original.symm.trans found)
  exact ⟨rewrites, room, read, read_in_full, by decide +kernel, by decide +kernel⟩

end CarbonSurvey
