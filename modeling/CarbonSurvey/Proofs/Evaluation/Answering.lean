import CarbonSurvey.Proofs.Evaluation.Filling
import CarbonSurvey.Proofs.Evaluation.Pursuit

/-! # Answering with the value at hand

A name without an answer has a value all the same, that of its default. A participant who answers with just
that value does not change what any quiet evaluation finds: where it asked for the default, deep inside
other goals, it got what the default is worth by itself, and that is what it now reads off the answers.
-/

namespace CarbonSurvey

/-- An answer that leaves the value of its question to the default. -/
def Answer.isVoid : Answer → Bool
  | .number value => !value.isFinite
  | .text _ => false
  | .unanswered => true

/-- The question has no answer, or one that leaves its value to the default. -/
def Situation.leavesOpen (situation : Situation) (name : String) : Bool :=
  situation[name]?.all Answer.isVoid

namespace Setting

/-- The value of a reference. -/
def resolve (setting : Setting) (reference : String) : Float :=
  match (setting.answer (.value reference)).reading with
  | .number value => value
  | .truth _ => 0.0

end Setting

namespace Situation

variable {situation : Situation} {name : String}

theorem number?_of_leavesOpen (h : situation.leavesOpen name) : situation.number? name = none := by
  unfold leavesOpen at h
  unfold number?
  cases hanswer : situation[name]? with
  | none => rfl
  | some answer =>
      rw [hanswer] at h
      cases answer with
      | number value => simpa [Answer.isVoid, Answer.number?] using h
      | text words => cases h
      | unanswered => rfl

theorem wordless_of_leavesOpen (h : situation.leavesOpen name) (words : String) :
    situation[name]? ≠ some (.text words) := by
  intro hanswer
  simp [leavesOpen, hanswer, Answer.isVoid] at h

end Situation

namespace Setting

variable {left right setting : Setting} {known : String → Option Float}

/-- `right` is `left` with some defaults filled in, each of which `left` would quietly find itself. -/
structure Fills (known : String → Option Float) (left right : Setting) : Prop where
  model : right.model = left.model
  reads : ∀ name, left.situation.FillsIn known right.situation name
  limit : left.maxDepth ≤ right.maxDepth
  found : ∀ name answer, known name = some answer →
    ∀ stack worth, left.pursue stack (.default name) = .ok worth → answer = worth

theorem Fills.refl (setting : Setting) : Fills (fun _ => none) setting setting where
  model := rfl
  reads _ := Situation.fillsIn_of_eq rfl
  limit := Nat.le_refl _
  found := nofun

theorem Fills.plan_eq (fills : Fills known left right) (goal : Goal) :
    right.plan goal = (left.plan goal).fill known := by
  apply Plan.goal_fill
  · rw [fills.model]
  · intro mention _
    exact fills.reads mention.name

theorem Fills.eq_of_known? (fills : Fills known left right) {stack : Stack} {asked : Goal} {worth : Float}
    (h : left.pursue stack asked = .ok worth) : ∀ answer, asked.known? known = some answer → answer = worth := by
  intro answer hknown
  cases asked with
  | formula name => cases hknown
  | default name => exact fills.found name answer hknown stack worth h

/-- What a goal quietly comes to, it also comes to on a smaller stack and with the defaults filled in. -/
theorem Fills.pursue_eq (fills : Fills known left right) {larger smaller : Stack} {goal : Goal} {worth : Float}
    (hsub : smaller ⊆ larger) (hnesting : smaller.nesting ≤ larger.nesting)
    (h : left.pursue larger goal = .ok worth) : right.pursue smaller goal = .ok worth := by
  induction larger, goal using pursuit_induction left generalizing smaller worth with
  | cycle larger goal hstack => exact absurd hstack (pursue_eq_ok_iff.1 h).1
  | deep larger goal hstack hdeep => exact absurd hdeep (pursue_eq_ok_iff.1 h).2.1
  | opened larger goal hstack hdeep ih =>
      have limit := fills.limit
      rw [pursue_eq_ok_iff, fills.plan_eq]
      refine ⟨fun hmem => hstack (hsub hmem), ?_, ?_⟩
      · rintro ⟨hformula, hdeeper⟩
        exact hdeep ⟨hformula, by omega⟩
      · apply (pursue_eq_ok_iff.1 h).2.2.fill
        intro asked hasked answer hanswer
        refine ⟨?_, fills.eq_of_known? hanswer⟩
        apply ih asked hasked (List.cons_subset_cons goal hsub) _ hanswer
        simp only [Stack.nesting, List.countP_cons] at hnesting ⊢
        omega

theorem Fills.query_eq (fills : Fills known left right) {stack : Stack} {query : Query} {reading : Reading}
    (h : left.query stack query = .ok reading) : right.query stack query = .ok reading := by
  have found := Plan.run_eq_ok_iff.1 h
  have same {asked : Goal} {answer : Float} (hanswer : left.pursue stack asked = .ok answer) :
      right.pursue stack asked = .ok answer :=
    fills.pursue_eq (List.Subset.refl stack) (Nat.le_refl _) hanswer
  apply Plan.run_eq_ok_iff.2
  cases query with
  -- a default that is asked for by name is still found the long way
  | default name => exact found.mono fun _ _ _ => same
  | rule _ | value _ | condition _ =>
      rw [Query.plan_fill (by rintro name ⟨⟩) fun mention _ => fills.reads mention.name]
      exact found.fill fun _ _ _ hanswer => ⟨same hanswer, fills.eq_of_known? hanswer⟩

/-! ## One question answered -/

/-- What the default of an open question quietly comes to inside other goals is the value of the question. -/
theorem resolve_of_pursue {name : String} {stack : Stack} {worth : Float} (valid : DottedName.isValid name)
    (hopen : setting.situation.leavesOpen name) (h : setting.pursue stack (.default name) = .ok worth) :
    setting.resolve name = worth := by
  have alone : setting.pursue [] (.default name) = .ok worth :=
    (Fills.refl setting).pursue_eq (List.nil_subset stack) (Nat.zero_le _) h
  have quiet : setting.query [] (.value name) = .ok (.number worth) := by
    simp only [query, run, Query.plan, Plan.value, valid, if_true, Situation.number?_of_leavesOpen hopen,
      Plan.map, Plan.run_bind, Plan.run_ofGoal, alone]
    rfl
  simp [resolve, answer, quiet, Outcome.ok]

end Setting

/-- The default that need not be asked for any more once `name` is answered with `worth`. An answer to a
    blank name is not read, and one that is not finite does not count. -/
def knownFrom (name : String) (worth : Float) (asked : String) : Option Float :=
  if asked = name ∧ DottedName.isValid name then (Answer.number worth).number? else none

theorem eq_of_knownFrom {name asked : String} {worth answer : Float} (h : knownFrom name worth asked = some answer) :
    asked = name ∧ DottedName.isValid name ∧ answer = worth := by
  unfold knownFrom at h
  split at h
  · next same =>
    simp only [Answer.number?, Option.ite_none_right_eq_some, Option.some.injEq] at h
    exact ⟨same.1, same.2, h.2.symm⟩
  · cases h

namespace Situation

variable {situation : Situation} {name : String}

theorem value_insert (worth : Float) (hopen : situation.leavesOpen name) :
    Plan.value (situation.insert name (.number worth)) name =
      (Plan.value situation name).fill (knownFrom name worth) := by
  have answered : number? (situation.insert name (.number worth)) name = (Answer.number worth).number? := by
    simp [number?]
  unfold Plan.value
  cases valid : DottedName.isValid name with
  | false => rfl
  | true =>
      simp only [if_true, answered, number?_of_leavesOpen hopen, Plan.fill_ofGoal_default, knownFrom, valid, and_self]
      cases (Answer.number worth).number? <;> rfl

theorem value_insert_of_ne {other : String} (worth : Float) (differs : other ≠ name) :
    Plan.value (situation.insert name (.number worth)) other =
      (Plan.value situation other).fill (knownFrom name worth) := by
  have unchanged : number? (situation.insert name (.number worth)) other = situation.number? other := by
    simp [number?, Std.ExtTreeMap.getElem?_insert, Ne.symm differs]
  have unknown : knownFrom name worth other = none := if_neg fun same => differs same.1
  unfold Plan.value
  rw [unchanged]
  split
  · split
    · rfl
    · rw [Plan.fill_ofGoal_default, unknown]
      rfl
  · rfl

theorem fillsIn_insert (worth : Float) (hopen : situation.leavesOpen name) (other : String) :
    situation.FillsIn (knownFrom name worth) (situation.insert name (.number worth)) other := by
  by_cases same : other = name
  · subst same
    refine ⟨fun text => ?_, value_insert worth hopen⟩
    simp [wordless_of_leavesOpen hopen text]
  · refine ⟨fun text => ?_, value_insert_of_ne worth same⟩
    simp [Std.ExtTreeMap.getElem?_insert, Ne.symm same]

end Situation

/-- Answering an open question with the value it has changes nothing. Whatever was found quietly before, in
    a fresh evaluation or while other goals are pursued, is found quietly with the answer. -/
theorem own_value_changes_nothing {model : Model} {situation : Situation} {maxDepth : Nat} {name : String}
    (hopen : situation.leavesOpen name) {stack : Stack} {query : Query} {reading : Reading}
    (h : Setting.query ⟨model, situation, maxDepth⟩ stack query = .ok reading) :
    Setting.query ⟨model, situation.insert name (.number (Setting.resolve ⟨model, situation, maxDepth⟩ name)),
      maxDepth⟩ stack query = .ok reading := by
  have fills : Setting.Fills (knownFrom name (Setting.resolve ⟨model, situation, maxDepth⟩ name))
      ⟨model, situation, maxDepth⟩
      ⟨model, situation.insert name (.number (Setting.resolve ⟨model, situation, maxDepth⟩ name)), maxDepth⟩ := by
    constructor
    · rfl
    · exact Situation.fillsIn_insert _ hopen
    · exact Nat.le_refl _
    · intro asked answer hknown stack worth hworth
      obtain ⟨rfl, valid, rfl⟩ := eq_of_knownFrom hknown
      exact Setting.resolve_of_pursue valid hopen hworth
  exact fills.query_eq h

/-- A question that is asked for in a sum and in a guard. -/
def askedTwice : Model :=
  .ofRows [("a", .rule ⟨none, none, some (.expression (.sum ["b", "c"]))⟩),
    ("b", .rule ⟨none, some (.number 5), none⟩), ("c", .rule ⟨some (.text "b > 4"), some (.number 2), none⟩)]

/-- The question is on record without an answer. Answered with its default, it leaves the sum as it is. -/
theorem askedTwice_answered :
    Situation.leavesOpen (.ofRows [("b", .unanswered)]) "b" ∧
    Setting.query ⟨askedTwice, .ofRows [("b", .unanswered)], 1⟩ [] (.rule "a") = .ok (.number 7) ∧
    Setting.query ⟨askedTwice, (NameTable.ofRows [("b", Answer.unanswered)]).insert "b" (.number 5), 1⟩ [] (.rule "a") =
      .ok (.number 7) := by
  have hopen : Situation.leavesOpen (.ofRows [("b", .unanswered)]) "b" := by decide +kernel
  have worth : Setting.resolve ⟨askedTwice, .ofRows [("b", .unanswered)], 1⟩ "b" = 5 := by decide +kernel
  have before : Setting.query ⟨askedTwice, .ofRows [("b", .unanswered)], 1⟩ [] (.rule "a") = .ok (.number 7) := by
    have warnings : (Setting.query ⟨askedTwice, .ofRows [("b", .unanswered)], 1⟩ [] (.rule "a")).warnings = [] := by
      decide +kernel
    have result : (Setting.query ⟨askedTwice, .ofRows [("b", .unanswered)], 1⟩ [] (.rule "a")).result =
        .ok (.number 7) := by
      decide +kernel
    simp only [Outcome.ok, ← warnings, ← result]
  have after := own_value_changes_nothing hopen before
  rw [worth] at after
  exact ⟨hopen, before, after⟩

end CarbonSurvey
