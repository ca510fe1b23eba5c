import CarbonSurvey.Proofs.Condition.Written
import CarbonSurvey.Proofs.Decimal.Order
import CarbonSurvey.Proofs.Evaluation.Worth
import CarbonSurvey.Proofs.NameTable

/-! # What conditions check

Whatever a text looks like, it checks one of three things: nothing that could ever hold, one answer in words, or
how the value of a name lies to a finite number. Two checks hold in the same circumstances exactly when they agree
(`Check.holds_of_agrees`, `Check.agrees_of_holds`), and no more than answers in words and the values of other names
is needed to tell them apart.
-/

namespace CarbonSurvey

open Text

/-- All answers of a situation are in words. -/
def Situation.IsWorded (situation : Situation) : Prop :=
  ∀ (name : String) (answer : Answer), situation[name]? = some answer → ∃ text, answer = .text text

/-- What a condition comes down to. -/
inductive Check where
  | never
  | answered (reference text : String)
  | compared (reference : String) (op : Operator) (literal : Float)
  deriving Repr, DecidableEq

namespace Check

/-- Only agreement is asked of a text, so no other comparison with one ever holds. -/
def ofCondition : Option Condition → Check
  | none => never
  | some ⟨reference, none⟩ => answered reference Condition.yes
  | some ⟨reference, some (.equal, .text text)⟩ => answered reference text
  | some ⟨_, some (_, .text _)⟩ => never
  | some ⟨reference, some (op, .number literal)⟩ => compared reference op literal

def ofText (text : String) : Check :=
  ofCondition (Condition.parse? text)

/-- Whether a check holds where names have these values. An answer in words is never compared with a number. -/
def holds (situation : Situation) (values : String → Float) : Check → Bool
  | never => false
  | answered reference text => situation[reference]? = some (.text text)
  | compared reference op literal =>
    match situation[reference]? with
    | some (.text _) => false
    | _ => op.holds (.number (values reference)) (.number literal)

/-- Checks agree when they say the same, up to the sign of zero. -/
def agrees : Check → Check → Bool
  | never, never => true
  | answered reference text, answered reference' text' => reference = reference' ∧ text = text'
  | compared reference op literal, compared reference' op' literal' =>
    reference = reference' ∧ op = op' ∧ literal == literal'
  | _, _ => false

/-- A condition compares a name that is not blank with a finite number. -/
inductive IsSound : Check → Prop where
  | never : IsSound never
  | answered {reference text : String} : IsSound (answered reference text)
  | compared {reference : String} {op : Operator} {literal : Float} (valid : DottedName.isValid reference)
      (finite : literal.isFinite) : IsSound (compared reference op literal)

/-! ## The checks of texts -/

theorem isValid_ofList_trim {text : List Char} (h : trim text ≠ []) : DottedName.isValid (.ofList (trim text)) := by
  have again : trim (trim text) = trim text := (trim_trimEnd _).trans (trim_trimStart text)
  rw [DottedName.isValid, String.toList_ofList, again]
  exact bne_iff_ne.2 h

theorem isFinite_of_ofLiteral {literal : List Char} {value : Float} (h : Operand.ofLiteral literal = .number value) :
    value.isFinite := by
  unfold Operand.ofLiteral Decimal.finite? at h
  cases read : Decimal.Numeral.read? literal with
  | none => simp [read] at h
  | some numeral =>
      by_cases finite : numeral.toFloat.isFinite
      · simp only [read, finite, if_true, Operand.number.injEq] at h
        exact h ▸ finite
      · simp [read, finite] at h

theorem isSound_ofText (text : String) : (ofText text).IsSound := by
  unfold ofText
  cases parsed : Condition.parse? text with
  | none => exact .never
  | some condition =>
      rcases Condition.plain_or_written parsed with ⟨-, -, rfl⟩ | ⟨written, -, compared⟩
      · exact .answered
      · obtain ⟨reference, -, rfl⟩ := Condition.compared?_eq_some_iff.1 compared
        cases literal : Operand.ofLiteral (trim written.literal) with
        | text text =>
            cases op : written.op with
            | equal => exact .answered
            | less | greater => exact .never
        | number value =>
            cases op : written.op <;>
              exact .compared (isValid_ofList_trim reference) (isFinite_of_ofLiteral literal)

/-- A comparison with a text asks for one answer, or for nothing there is. -/
theorem worth_comparison_text (situation : Situation) (reference : String) (op : Operator) (text : String)
    (answers : Goal → Float) :
    (Plan.comparison situation reference op (.text text)).worth answers =
      decide (op = .equal ∧ situation[reference]? = some (.text text)) := by
  unfold Plan.comparison
  cases situation[reference]? with
  | none => simp [Operator.holds]
  | some answer =>
      rw [Bool.eq_iff_iff]
      cases answer <;> simp [Operator.holds]

/-- A condition comes to what its text checks. -/
theorem worth_condition (situation : Situation) (text : String) (answers : Goal → Float) :
    (Plan.condition situation text).worth answers =
      (ofText text).holds situation fun reference => (Plan.value situation reference).worth answers := by
  unfold Plan.condition ofText
  cases Condition.parse? text with
  | none => rfl
  | some condition =>
      rcases condition with ⟨reference, _ | ⟨op, literal | literal⟩⟩
      · rfl
      · simp only [ofCondition, holds, Plan.comparison]
        cases situation[reference]? with
        | none => simp only [Plan.worth_map]
        | some answer => cases answer <;> simp [Operator.holds]
      · refine (worth_comparison_text situation reference op literal answers).trans ?_
        cases op <;> simp [ofCondition, holds]

/-! ## Telling checks apart -/

variable {left right : Check}

/-- Checks that agree hold together. -/
theorem holds_of_agrees (hleft : left.IsSound) (hright : right.IsSound) (h : left.agrees right)
    (situation : Situation) (values : String → Float) : left.holds situation values = right.holds situation values := by
  cases hleft with
  | never =>
      cases hright with
      | never => rfl
      | answered | compared => cases h
  | answered =>
      cases hright with
      | answered =>
          obtain ⟨rfl, rfl⟩ := of_decide_eq_true h
          rfl
      | never | compared => cases h
  | compared valid finite =>
      cases hright with
      | compared valid' finite' =>
          obtain ⟨rfl, same⟩ := of_decide_eq_true h
          have agree := (Operator.holds_eq_iff finite finite').2 same
          simp only [holds, agree]
      | never | answered => cases h

theorem not_holds_nan (op : Operator) (literal : Float) : op.holds (.number (0 / 0)) (.number literal) = false := by
  have unranked : Decimal.rank (0 / 0) = none := by decide +kernel
  rw [Operator.holds_eq_any, unranked]
  rfl

theorem exists_holds (op : Operator) {literal : Float} (finite : literal.isFinite) :
    ∃ value, op.holds (.number value) (.number literal) = true := by
  obtain ⟨place, ranked, above, below⟩ := Decimal.exists_rank finite
  simp only [Operator.holds_eq_any, ranked, Option.any_some]
  cases op with
  | less => exact ⟨-1 / 0, by simp [Decimal.rank_negative_infinity, compare_lt_iff_lt.2 above, Operator.ordering]⟩
  | greater => exact ⟨1 / 0, by simp [Decimal.rank_positive_infinity, compare_gt_iff_gt.2 below, Operator.ordering]⟩
  | equal => exact ⟨literal, by simp [ranked, Operator.ordering]⟩

/-- Where a question has been answered, the check that asks for this answer holds. -/
theorem holds_answered (reference text : String) (values : String → Float) :
    (answered reference text).holds (.ofRows [(reference, .text text)]) values = true :=
  decide_eq_true ((NameTable.getElem?_ofRows (by simp) _ _).2 (.head _))

/-- It tells this check from all others, as long as no name has a value. -/
theorem eq_answered_of_holds {reference text : String}
    (h : right.holds (.ofRows [(reference, .text text)]) fun _ => 0 / 0) : right = answered reference text := by
  cases right with
  | never => cases h
  | answered asked answer =>
      have row := (NameTable.getElem?_ofRows (by simp) _ _).1 (of_decide_eq_true h)
      simp only [List.mem_singleton, Prod.mk.injEq, Answer.text.injEq] at row
      rw [row.1, row.2]
  | compared asked op literal =>
      simp only [holds, not_holds_nan] at h
      split at h <;> cases h

/-- Where nothing has been answered, a comparison only looks at the value. -/
theorem holds_compared (reference : String) (op : Operator) (literal : Float) (values : String → Float) :
    (compared reference op literal).holds ∅ values = op.holds (.number (values reference)) (.number literal) := by
  simp [holds]

/-- Where one name alone has a value, only a comparison of this name can hold. -/
theorem eq_compared_of_holds {reference : String} {value : Float}
    (h : right.holds ∅ fun name => if name = reference then value else 0 / 0) :
    ∃ op literal, right = compared reference op literal := by
  cases right with
  | never => cases h
  | answered asked answer => simp [holds] at h
  | compared asked op literal =>
      by_cases same : asked = reference
      · exact ⟨op, literal, by rw [same]⟩
      · simp [holds_compared, same, not_holds_nan] at h

/-- Checks agree that hold together wherever all answers are in words. -/
theorem agrees_of_holds (hleft : left.IsSound) (hright : right.IsSound)
    (h : ∀ (situation : Situation) (values : String → Float), situation.IsWorded →
      left.holds situation values = right.holds situation values) : left.agrees right := by
  have empty : Situation.IsWorded ∅ := by
    intro name answer found
    simp at found
  have single (reference text : String) : Situation.IsWorded (.ofRows [(reference, .text text)]) := by
    intro name answer found
    have row := (NameTable.getElem?_ofRows (by simp) _ _).1 found
    exact ⟨text, (Prod.mk.inj (List.mem_singleton.1 row)).2⟩
  cases hleft with
  | @answered reference text =>
      have together := h _ (fun _ => 0 / 0) (single reference text)
      rw [holds_answered] at together
      rw [eq_answered_of_holds together.symm]
      simp [agrees]
  | @compared reference op literal valid finite =>
      obtain ⟨value, holds⟩ := exists_holds op finite
      have together := h _ (fun name => if name = reference then value else 0 / 0) empty
      rw [holds_compared, if_pos rfl, holds] at together
      obtain ⟨op', literal', rfl⟩ := eq_compared_of_holds together.symm
      cases hright with | compared valid' finite' =>
      have agree : ∀ x, op.holds (.number x) (.number literal) = op'.holds (.number x) (.number literal') := by
        intro x
        have together := h _ (fun _ => x) empty
        rwa [holds_compared, holds_compared] at together
      simpa [agrees] using (Operator.holds_eq_iff finite finite').1 agree
  | never =>
      cases hright with
      | never => rfl
      | @answered reference text =>
          have together := h _ (fun _ => 0 / 0) (single reference text)
          rw [holds_answered] at together
          cases together
      | @compared reference op literal valid finite =>
          obtain ⟨value, holds⟩ := exists_holds op finite
          have together := h _ (fun _ => value) empty
          rw [holds_compared, holds] at together
          cases together

end Check

end CarbonSurvey
