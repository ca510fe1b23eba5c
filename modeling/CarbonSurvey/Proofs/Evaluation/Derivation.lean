import CarbonSurvey.Proofs.Evaluation.Yielding

/-! # Judgements and plans

Plans and judgements say the same. A judgement is derived exactly when its plan yields what it says,
where the answers are again those of plain evaluation (`derives_iff_planned`), so a query is
derivable exactly when its plan comes to the reading (`Query.derivable_iff`).
-/

namespace CarbonSurvey

variable {model : Model} {situation : Situation}

theorem plainAnswer_iff {goal : Goal} {worth : Float} :
    PlainAnswer model situation goal worth ↔
      (Plan.goal model situation goal).Yields (PlainAnswer model situation) worth :=
  Plan.comesTo_iff_yields

namespace Plan

/-- Without an answer in words a comparison is one of numbers. -/
theorem comparison_of_wordless {reference : String} {op : Operator} {literal : Operand}
    (wordless : ∀ answer, situation[reference]? ≠ some (.text answer)) :
    comparison situation reference op literal =
      (value situation reference).map fun left => op.holds (.number left) literal := by
  unfold comparison
  split
  · next answer words => exact absurd words (wordless answer)
  · rfl

/-- A rule's default counts once its guard holds. -/
theorem goal_default_of_rule {name : String} {rule : Rule} (found : model[name]? = some (.rule rule)) :
    goal model situation (.default name) =
      (guard situation name rule).bind fun applies =>
        if applies then ruleDefault name rule else .done 0.0 := by
  simp only [goal, default, found]

end Plan

/-- A judgement that is derived says what its plan yields. -/
theorem Derives.planned {judgement : Judgement} (h : Derives model situation judgement) :
    judgement.Planned situation (PlainAnswer model situation) := by
  induction h with
  | ruleMissing absent => simp [plainAnswer_iff, Plan.goal, Plan.formula, absent]
  | ruleConstant found constant =>
      simp [plainAnswer_iff, Plan.goal, Plan.formula, found, constant]
  | ruleExpression found constant expression _ ih =>
      simpa [plainAnswer_iff, Plan.goal, Plan.formula, found, constant, expression] using ih
  | ruleEmpty found constant expression =>
      simp [plainAnswer_iff, Plan.goal, Plan.formula, found, constant, expression]
  | variations _ ih | averageFirst _ ih | sum _ ih =>
      simpa only [Judgement.Planned, Plan.expression] using ih
  | averageNone | unsupported => simp [Plan.expression]
  | anyOf _ ih | allOf _ ih =>
      simp only [Judgement.Planned, Plan.expression, Plan.yields_map]
      exact ⟨_, ih, rfl⟩
  | noCase => simp [Plan.choose]
  | fallbackFormula _ ih => simpa only [Judgement.Planned, Plan.choose, Plan.nested] using ih
  | @fallbackPlain owner branch plain =>
      cases branch with
      | formula body => exact absurd rfl (plain body)
      | number | text => simp [Plan.choose, Plan.nested]
  | caseTaken _ _ ihholds ihtaken =>
      simp only [Judgement.Planned, Plan.choose, Plan.completed_eq_stated, Plan.yields_bind]
      exact ⟨true, ihholds, ihtaken⟩
  | caseSkipped _ _ ihfails ihchosen =>
      simp only [Judgement.Planned, Plan.choose, Plan.completed_eq_stated, Plan.yields_bind]
      exact ⟨false, ihfails, ihchosen⟩
  | branchNumber | branchText => simp [Plan.nested, Plan.plain]
  | branchFormula _ ih => simpa only [Judgement.Planned, Plan.nested] using ih
  | totalDone => simp [Plan.total]
  | totalNext _ _ ihfirst ihothers =>
      simp only [Judgement.Planned, Plan.total, Plan.yields_bind]
      exact ⟨_, ihfirst, ihothers⟩
  | anyNone => simp [Plan.anyOf]
  | anyFirst _ ih =>
      simp only [Judgement.Planned, Plan.anyOf, Plan.proviso_eq_stated, Plan.yields_bind]
      exact ⟨true, ih, rfl⟩
  | anyRest _ _ ihfails ihothers =>
      simp only [Judgement.Planned, Plan.anyOf, Plan.proviso_eq_stated, Plan.yields_bind]
      exact ⟨false, ihfails, ihothers⟩
  | allNone => simp [Plan.allOf]
  | allFirst _ ih =>
      simp only [Judgement.Planned, Plan.allOf, Plan.proviso_eq_stated, Plan.yields_bind]
      exact ⟨false, ih, rfl⟩
  | allRest _ _ ihholds ihothers =>
      simp only [Judgement.Planned, Plan.allOf, Plan.proviso_eq_stated, Plan.yields_bind]
      exact ⟨true, ihholds, ihothers⟩
  | malformed => simp [Plan.stated]
  | unread unread => simp [Plan.stated, Plan.condition, unread]
  | bareYes read yes => simp [Plan.stated, Plan.condition, read, yes]
  | bareNo read no => simp [Plan.stated, Plan.condition, read, no]
  | comparedText read words => simp [Plan.stated, Plan.condition, Plan.comparison, read, words]
  | comparedNumber read wordless _ ih =>
      simp only [Judgement.Planned, Plan.stated, Plan.condition, read,
        Plan.comparison_of_wordless wordless, Plan.yields_map]
      exact ⟨_, ih, rfl⟩
  | unguarded guard => simp [Plan.guard, guard]
  | guarded guard _ ih =>
      simpa only [Judgement.Planned, Plan.guard, guard, Plan.completed_eq_stated] using ih
  | valueBlank blank => simp [Plan.value, blank]
  | valueAnswered valid answer => simp [Plan.value, valid, answer]
  | valueDefault valid answer _ ih => simpa [Plan.value, valid, answer] using ih
  | defaultMissing absent => simp [plainAnswer_iff, Plan.goal, Plan.default, absent]
  | defaultBare found => simp [plainAnswer_iff, Plan.goal, Plan.default, found]
  | defaultRefused found _ ih =>
      simp only [Judgement.Planned, plainAnswer_iff, Plan.goal_default_of_rule found, Plan.yields_bind]
      exact ⟨false, ih, rfl⟩
  | defaultNumber found _ default ih =>
      simp only [Judgement.Planned, plainAnswer_iff, Plan.goal_default_of_rule found, Plan.yields_bind]
      exact ⟨true, ih, by simp [Plan.ruleDefault, default]⟩
  | defaultReference found _ default _ ihguard ihtarget =>
      simp only [Judgement.Planned, plainAnswer_iff, Plan.goal_default_of_rule found, Plan.yields_bind]
      refine ⟨true, ihguard, ?_⟩
      simp only [if_true, Plan.ruleDefault, default, Plan.yields_ofGoal]
      exact ihtarget
  | defaultFormula found _ default computed _ ihguard ihown =>
      simp only [Judgement.Planned, plainAnswer_iff, Plan.goal_default_of_rule found, Plan.yields_bind]
      refine ⟨true, ihguard, ?_⟩
      simp only [if_true, Plan.ruleDefault, default, computed, Plan.yields_ofGoal]
      exact ihown
  | defaultNone found _ default uncomputed ih =>
      simp only [Judgement.Planned, plainAnswer_iff, Plan.goal_default_of_rule found, Plan.yields_bind]
      exact ⟨true, ih, by simp [Plan.ruleDefault, default, uncomputed]⟩

/-! ## From plans back to judgements

Each kind of plan is taken apart along the syntax it was made from. The answers are any that are
themselves derivable, which is what an induction over plain evaluation has to offer. -/

/-- Answers are sound when the judgements bear them out. -/
def Sound (model : Model) (situation : Situation) (answers : Goal → Float → Prop) : Prop :=
  ∀ goal answer, answers goal answer → Derives model situation (goal.judgement answer)

variable {answers : Goal → Float → Prop}

theorem derives_value (sound : Sound model situation answers) {reference : String} {worth : Float}
    (h : (Plan.value situation reference).Yields answers worth) :
    Derives model situation (.value reference worth) := by
  unfold Plan.value at h
  split at h
  · next valid =>
    split at h
    · next answer hanswer =>
      obtain rfl := h
      exact .valueAnswered valid hanswer
    · next hanswer =>
      exact .valueDefault valid hanswer (sound _ _ (Plan.yields_ofGoal.1 h))
  · next blank =>
    obtain rfl := h
    exact .valueBlank (Bool.eq_false_iff.2 blank)

theorem derives_stated (sound : Sound model situation answers) {text : Option String} {holds : Bool}
    (h : (Plan.stated situation text).Yields answers holds) :
    Derives model situation (.condition text holds) := by
  cases text with
  | none =>
      obtain rfl := h
      exact .malformed
  | some text =>
      simp only [Plan.stated, Plan.condition] at h
      split at h
      · next unread =>
        obtain rfl := h
        exact .unread unread
      · next reference read =>
        obtain rfl := h
        by_cases yes : situation[reference]? = some (.text Condition.yes)
        · simpa only [yes, decide_true] using .bareYes read yes
        · simpa only [yes, decide_false] using .bareNo read yes
      · next reference op literal read =>
        by_cases words : ∃ answer, situation[reference]? = some (.text answer)
        · obtain ⟨answer, words⟩ := words
          simp only [Plan.comparison, words] at h
          obtain rfl := h
          exact .comparedText read words
        · have wordless : ∀ answer, situation[reference]? ≠ some (.text answer) :=
            fun answer hwords => words ⟨answer, hwords⟩
          rw [Plan.comparison_of_wordless wordless, Plan.yields_map] at h
          obtain ⟨worth, hworth, rfl⟩ := h
          exact .comparedNumber read wordless (derives_value sound hworth)

theorem derives_total (sound : Sound model situation answers) {references : List String} {sum worth : Float}
    (h : (Plan.total situation sum references).Yields answers worth) :
    Derives model situation (.total sum references worth) := by
  induction references generalizing sum with
  | nil =>
      obtain rfl := h
      exact .totalDone
  | cons reference rest ih =>
      obtain ⟨answer, hfirst, hrest⟩ := Plan.yields_bind.1 h
      exact .totalNext (derives_value sound hfirst) (ih hrest)

theorem derives_anyOf (sound : Sound model situation answers) {provisos : List Proviso} {holds : Bool}
    (h : (Plan.anyOf situation provisos).Yields answers holds) :
    Derives model situation (.anyOf provisos holds) := by
  induction provisos with
  | nil =>
      obtain rfl := h
      exact .anyNone
  | cons first rest ih =>
      rw [Plan.anyOf, Plan.proviso_eq_stated, Plan.yields_bind] at h
      obtain ⟨first_holds, hfirst, hrest⟩ := h
      cases first_holds with
      | true =>
          obtain rfl := hrest
          exact .anyFirst (derives_stated sound hfirst)
      | false => exact .anyRest (derives_stated sound hfirst) (ih hrest)

theorem derives_allOf (sound : Sound model situation answers) {provisos : List Proviso} {holds : Bool}
    (h : (Plan.allOf situation provisos).Yields answers holds) :
    Derives model situation (.allOf provisos holds) := by
  induction provisos with
  | nil =>
      obtain rfl := h
      exact .allNone
  | cons first rest ih =>
      rw [Plan.allOf, Plan.proviso_eq_stated, Plan.yields_bind] at h
      obtain ⟨first_holds, hfirst, hrest⟩ := h
      cases first_holds with
      | true => exact .allRest (derives_stated sound hfirst) (ih hrest)
      | false =>
          obtain rfl := hrest
          exact .allFirst (derives_stated sound hfirst)

mutual

theorem derives_formula (sound : Sound model situation answers) {owner : String} {worth : Float} :
    (body : Expression) →
    (Plan.expression situation owner body).Yields answers worth →
    Derives model situation (.formula owner body worth)
  | .variations cases, h => .variations (derives_choice sound cases h)
  | .average [], h => by
      obtain rfl := h
      exact .averageNone
  | .average (_ :: _), h => .averageFirst (derives_value sound h)
  | .sum _, h => .sum (derives_total sound h)
  | .anyOf _, h => by
      obtain ⟨_, hsome, rfl⟩ := Plan.yields_map.1 h
      exact .anyOf (derives_anyOf sound hsome)
  | .allOf _, h => by
      obtain ⟨_, hall, rfl⟩ := Plan.yields_map.1 h
      exact .allOf (derives_allOf sound hall)
  | .unsupported, h => by
      obtain rfl := h
      exact .unsupported

theorem derives_choice (sound : Sound model situation answers) {owner : String} {worth : Float} :
    (cases : Cases) →
    (Plan.choose situation owner cases).Yields answers worth →
    Derives model situation (.choice owner cases worth)
  | .done, h => by
      obtain rfl := h
      exact .noCase
  | .otherwise (.formula body), h => .fallbackFormula (derives_formula sound body h)
  | .otherwise (.number _), h | .otherwise (.text _), h => by
      obtain rfl := h
      exact .fallbackPlain nofun
  | .clause premise branch rest, h => by
      rw [Plan.choose, Plan.completed_eq_stated, Plan.yields_bind] at h
      obtain ⟨holds, hpremise, hcase⟩ := h
      cases holds with
      | true => exact .caseTaken (derives_stated sound hpremise) (derives_branch sound branch hcase)
      | false => exact .caseSkipped (derives_stated sound hpremise) (derives_choice sound rest hcase)

theorem derives_branch (sound : Sound model situation answers) {owner : String} {worth : Float} :
    (branch : Branch) →
    (Plan.nested situation owner (Plan.plain branch) branch).Yields answers worth →
    Derives model situation (.branch owner branch worth)
  | .number _, h => by
      obtain rfl := h
      exact .branchNumber
  | .text _, h => by
      obtain rfl := h
      exact .branchText
  | .formula body, h => .branchFormula (derives_formula sound body h)

end

theorem derives_guard (sound : Sound model situation answers) {name : String} {rule : Rule} {holds : Bool}
    (h : (Plan.guard situation name rule).Yields answers holds) :
    Derives model situation (.guard name rule holds) := by
  unfold Plan.guard at h
  split at h
  · next premise guard =>
    rw [Plan.completed_eq_stated] at h
    exact .guarded guard (derives_stated sound h)
  · next guard =>
    obtain rfl := h
    exact .unguarded guard

theorem derives_rule (sound : Sound model situation answers) {name : String} {worth : Float}
    (h : (Plan.goal model situation (.formula name)).Yields answers worth) :
    Derives model situation (.rule name worth) := by
  simp only [Plan.goal, Plan.formula] at h
  split at h
  · next absent =>
    obtain rfl := h
    exact .ruleMissing absent
  · next entry found =>
    split at h
    · next constant hconstant =>
      obtain rfl := h
      exact .ruleConstant found hconstant
    · next hconstant =>
      split at h
      · next body hbody => exact .ruleExpression found hconstant hbody (derives_formula sound body h)
      · next hbody =>
        obtain rfl := h
        exact .ruleEmpty found hconstant hbody

theorem derives_default (sound : Sound model situation answers) {name : String} {worth : Float}
    (h : (Plan.goal model situation (.default name)).Yields answers worth) :
    Derives model situation (.default name worth) := by
  match found : model[name]? with
  | none =>
      simp only [Plan.goal, Plan.default, found] at h
      obtain rfl := h
      exact .defaultMissing found
  | some (.bare number) =>
      simp only [Plan.goal, Plan.default, found] at h
      obtain rfl := h
      exact .defaultBare found
  | some (.rule rule) =>
      rw [Plan.goal_default_of_rule found, Plan.yields_bind] at h
      obtain ⟨holds, hguard, hdefault⟩ := h
      have guard := derives_guard sound hguard
      cases holds with
      | false =>
          obtain rfl := hdefault
          exact .defaultRefused found guard
      | true =>
          simp only [if_true, Plan.ruleDefault] at hdefault
          split at hdefault
          · next number default =>
            obtain rfl := hdefault
            exact .defaultNumber found guard default
          · next reference default =>
            exact .defaultReference found guard default (sound _ _ (Plan.yields_ofGoal.1 hdefault))
          · next default =>
            split at hdefault
            · next computed =>
              exact .defaultFormula found guard default computed
                (sound _ _ (Plan.yields_ofGoal.1 hdefault))
            · next uncomputed =>
              obtain rfl := hdefault
              exact .defaultNone found guard default (by simpa using uncomputed)

theorem derives_goal (sound : Sound model situation answers) {goal : Goal} {worth : Float}
    (h : (Plan.goal model situation goal).Yields answers worth) :
    Derives model situation (goal.judgement worth) := by
  cases goal with
  | formula name => exact derives_rule sound h
  | default name => exact derives_default sound h

/-! ## The two readings agree -/

/-- What a plan comes to, it yields from answers that are derivable. -/
theorem Plan.ComesTo.yields_derives {α : Type} {plan : Plan α} {worth : α}
    (h : plan.ComesTo model situation worth) :
    plan.Yields (fun goal answer => Derives model situation (goal.judgement answer)) worth := by
  induction h with
  | done value => rfl
  | ask _ _ ihgoal ihnext =>
      exact ⟨_, derives_goal (fun _ _ answered => answered) ihgoal, ihnext⟩

theorem sound_plainAnswer : Sound model situation (PlainAnswer model situation) := by
  intro goal answer h
  exact derives_goal (fun _ _ answered => answered) (Plan.ComesTo.yields_derives h)

theorem derives_iff_planned {judgement : Judgement} :
    Derives model situation judgement ↔
      judgement.Planned situation (PlainAnswer model situation) := by
  refine ⟨Derives.planned, fun h => ?_⟩
  cases judgement with
  | rule name worth => exact sound_plainAnswer (.formula name) worth h
  | default name worth => exact sound_plainAnswer (.default name) worth h
  | formula owner body worth => exact derives_formula sound_plainAnswer body h
  | choice owner cases worth => exact derives_choice sound_plainAnswer cases h
  | branch owner branch worth => exact derives_branch sound_plainAnswer branch h
  | total sum references worth => exact derives_total sound_plainAnswer h
  | anyOf provisos holds => exact derives_anyOf sound_plainAnswer h
  | allOf provisos holds => exact derives_allOf sound_plainAnswer h
  | condition text holds => exact derives_stated sound_plainAnswer h
  | guard name rule holds => exact derives_guard sound_plainAnswer h
  | value reference worth => exact derives_value sound_plainAnswer h

/-- A query is derivable exactly when its plan comes to the reading. -/
theorem Query.derivable_iff {query : Query} {reading : Reading} :
    query.Derivable model situation reading ↔
      (query.plan situation).ComesTo model situation reading := by
  rw [Plan.comesTo_iff_yields]
  cases query with
  | rule name | value name | default name | condition text =>
      cases reading <;> simp [Query.Derivable, Query.plan, derives_iff_planned, Plan.stated]

end CarbonSurvey
