import CarbonSurvey.Proofs.Evaluation.Derivation
import CarbonSurvey.Proofs.Evaluation.Asking

/-! # Defaults that wait for defaults

A default asks for a formula, or for another default: a guard that compares a name without an answer
has to find the default of that name first. `Waits` says from the model and the situation which default
that is, and no other way leads from a default to a default.
-/

namespace CarbonSurvey

/-- The name that the guard of a rule compares with a literal, if it compares one. -/
def Model.comparedBy? (model : Model) (name : String) : Option String :=
  ((model.rule? name).bind Rule.applicableIf).bind fun premise =>
    ((premise.completed? name).bind Condition.parse?).bind fun condition =>
      condition.comparison.map fun _ => condition.reference

namespace Situation

/-- A reference whose value is its default. -/
def lacks (situation : Situation) (reference : String) : Bool :=
  DottedName.isValid reference && (situation.number? reference).isNone

/-- A reference that a comparison has to find the default of. An answer in words is enough for it,
    whether or not it spells a number. -/
def isOpen (situation : Situation) (reference : String) : Bool :=
  (situation[reference]?.bind Answer.text?).isNone && situation.lacks reference

end Situation

/-- The default of `name` asks for the default of `other`, because its guard compares it. -/
def Waits (model : Model) (situation : Situation) (name other : String) : Prop :=
  model.comparedBy? name = some other ∧ situation.isOpen other

variable {model : Model} {situation : Situation}

namespace Plan

variable {asked : Goal}

theorem mayAsk_value {reference : String} :
    (value situation reference).MayAsk asked ↔ situation.lacks reference ∧ asked = .default reference := by
  unfold value Situation.lacks
  split
  · next valid =>
    split
    · next answer hanswer => simp [hanswer, MayAsk]
    · next hanswer => simp [hanswer, MayAsk, valid]
  · next blank => simp [blank, MayAsk]

theorem mayAsk_comparison {reference : String} {op : Operator} {literal : Operand} :
    (comparison situation reference op literal).MayAsk asked ↔
      situation.isOpen reference ∧ asked = .default reference := by
  by_cases words : ∃ answer, situation[reference]? = some (.text answer)
  · obtain ⟨answer, words⟩ := words
    simp [comparison, Situation.isOpen, words, Answer.text?, MayAsk]
  · have wordless : ∀ answer, situation[reference]? ≠ some (.text answer) :=
      fun answer hwords => words ⟨answer, hwords⟩
    have text_none : situation[reference]?.bind Answer.text? = none := by
      cases hanswer : situation[reference]? with
      | none => rfl
      | some answer =>
          cases answer with
          | number value => rfl
          | unanswered => rfl
          | text words => exact absurd hanswer (wordless words)
    rw [comparison_of_wordless wordless, mayAsk_map, mayAsk_value]
    simp only [Situation.isOpen, text_none, Option.isNone_none, Bool.true_and]

/-- A comparison asks for the default of its reference, and a bare condition for nothing. -/
theorem mayAsk_stated {text : Option String} : (stated situation text).MayAsk asked ↔
    ∃ read, text.bind Condition.parse? = some read ∧ read.comparison.isSome ∧
      situation.isOpen read.reference ∧ asked = .default read.reference := by
  cases text with
  | none => simp [stated, MayAsk]
  | some text =>
      simp only [stated, condition, Option.bind_some]
      split
      · next unread => simp [unread, MayAsk]
      · next reference read => simp [read, MayAsk]
      · next reference op literal read => simp [read, mayAsk_comparison]

/-- A guard asks for the default that its rule waits for, if it asks for anything. -/
theorem mayAsk_guard {name : String} {rule : Rule} (found : model[name]? = some (.rule rule)) :
    (guard situation name rule).MayAsk asked ↔
      ∃ other, Waits model situation name other ∧ asked = .default other := by
  simp only [Waits, Model.comparedBy?, Model.rule?, found, Option.bind_some, Entry.rule?, guard]
  cases rule.applicableIf with
  | none => simp [MayAsk]
  | some premise =>
      simp only [completed_eq_stated, mayAsk_stated, Option.bind_some]
      cases (premise.completed? name).bind Condition.parse? with
      | none => simp
      | some read => cases hcomparison : read.comparison <;> simp [hcomparison, and_assoc]

/-! ## Defaults ask for the default that they wait for -/

theorem mayAsk_ruleDefault {name : String} {rule : Rule} (h : (ruleDefault name rule).MayAsk asked) :
    asked.isFormula := by
  unfold ruleDefault at h
  split at h
  · exact h.elim
  · rw [mayAsk_ofGoal] at h
    rw [h, Goal.isFormula]
  · split at h
    · rw [mayAsk_ofGoal] at h
      rw [h, Goal.isFormula]
    · exact h.elim

/-- Only a rule has a default that asks for anything. -/
theorem rule_of_mayAsk {name : String} (h : (Plan.goal model situation (.default name)).MayAsk asked) :
    ∃ rule, model[name]? = some (.rule rule) := by
  simp only [Plan.goal, default] at h
  split at h
  · exact h.elim
  · exact h.elim
  · next rule found => exact ⟨rule, found⟩

theorem rule_of_waits {name other : String} (waits : Waits model situation name other) :
    ∃ rule, model[name]? = some (.rule rule) := by
  obtain ⟨compared, -⟩ := waits
  unfold Model.comparedBy? Model.rule? at compared
  cases found : model[name]? with
  | none => simp [found] at compared
  | some entry =>
      cases entry with
      | rule rule => exact ⟨rule, rfl⟩
      | bare value => simp [found, Entry.rule?] at compared

theorem mayAsk_default {name other : String} :
    (Plan.goal model situation (.default name)).MayAsk (.default other) ↔
      Waits model situation name other := by
  constructor
  · intro h
    obtain ⟨rule, found⟩ := rule_of_mayAsk h
    rw [goal_default_of_rule found] at h
    rcases h.bind_cases with hguard | ⟨holds, hdefault⟩
    · obtain ⟨_, waits, ⟨⟩⟩ := (mayAsk_guard found).1 hguard
      exact waits
    · cases holds with
      | true => exact absurd (mayAsk_ruleDefault hdefault) Bool.false_ne_true
      | false => exact hdefault.elim
  · intro waits
    obtain ⟨rule, found⟩ := rule_of_waits waits
    rw [goal_default_of_rule found, MayAsk, asks_bind]
    exact .inl ((mayAsk_guard found).2 ⟨other, waits, rfl⟩)

/-- The guard comes first, so the default that is waited for is the first goal asked for. -/
theorem goal_default_of_waits {name other : String} (waits : Waits model situation name other) :
    ∃ next, Plan.goal model situation (.default name) = .ask (.default other) next := by
  obtain ⟨rule, found⟩ := rule_of_waits waits
  have asked := (mayAsk_guard found).2 ⟨other, waits, rfl⟩
  rw [goal_default_of_rule found]
  cases hguard : guard situation name rule with
  | done holds =>
      rw [hguard] at asked
      exact asked.elim
  | ask first next =>
      have first_asked : (guard situation name rule).MayAsk first := by
        rw [hguard]
        exact .inl rfl
      obtain ⟨only, first_waits, rfl⟩ := (mayAsk_guard found).1 first_asked
      obtain rfl : only = other := Option.some.inj (first_waits.1.symm.trans waits.1)
      exact ⟨_, rfl⟩

end Plan

end CarbonSurvey
