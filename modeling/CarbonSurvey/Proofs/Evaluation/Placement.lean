import CarbonSurvey.Proofs.Condition.Check
import CarbonSurvey.Proofs.DottedName.Merging

/-! # Where a condition stands

A condition can be a case of a rule's variations, or stand alone in its any-of or its all-of. As a case its
reference is completed with the name of the rule, in the other two it is taken as it stands. So the rule has the
same value in all three places exactly when the text and its completion check the same (`placed_alike_iff`), and a
completed text can be moved freely (`placed_alike_merge`).
-/

namespace CarbonSurvey

/-- A model where the rule of a name is computed by this expression. -/
def Model.computing (model : Model) (name : String) (rule : Rule) (body : Expression) : Model :=
  model.insert name (.rule { rule with formula := some (.expression body) })

/-- A setting where the rule of a name is computed by this expression. -/
def Setting.computing (setting : Setting) (name : String) (rule : Rule) (body : Expression) : Setting :=
  { setting with model := setting.model.computing name rule body }

variable {name : String} {rule : Rule} {body : Expression}

namespace Model

variable {model : Model}

theorem getElem?_computing (model : Model) (name : String) (rule : Rule) (body : Expression) (other : String) :
    (model.computing name rule body)[other]? =
      if name = other then some (.rule { rule with formula := some (.expression body) }) else model[other]? :=
  NameTable.getElem?_insert_eq model name other _

/-- The names that have an expression for a formula. -/
def computed (model : Model) : List String :=
  (model.toList.filter fun row => row.2.expression?.isSome).map Prod.fst

theorem length_computed (model : Model) : model.computed.length = model.expressionCount := by
  rw [computed, List.length_map, expressionCount, List.countP_eq_length_filter]

theorem mem_computed : name ∈ model.computed ↔ ∃ entry, model[name]? = some entry ∧ entry.expression?.isSome := by
  simp [computed, Std.ExtTreeMap.mem_toList_iff_getElem?_eq_some]

theorem nodup_computed (model : Model) : model.computed.Nodup :=
  (NameTable.nodup_names (.refl model.toList)).sublist (List.filter_sublist.map Prod.fst)

/-- A model has room for as many formulas however its rules are computed. -/
theorem expressionCount_computing (body body' : Expression) :
    (model.computing name rule body).expressionCount ≤ (model.computing name rule body').expressionCount := by
  rw [← length_computed, ← length_computed]
  refine (List.subperm_of_subset (nodup_computed _) fun other computed => ?_).length_le
  rw [mem_computed] at computed ⊢
  simp only [getElem?_computing] at computed ⊢
  split at computed
  · next same => exact ⟨_, if_pos same, rfl⟩
  · next apart => simpa only [apart, if_false] using computed

end Model

namespace Plan

variable {model : Model} {situation : Situation}

theorem formula_computing :
    formula (model.computing name rule body) situation name = expression situation name body := by
  simp only [formula, Model.getElem?_computing, if_true]
  rfl

/-- The expression of a rule does not show in any other goal. -/
theorem goal_computing (body body' : Expression) {goal : Goal} (h : goal ≠ .formula name) :
    Plan.goal (model.computing name rule body) situation goal =
      Plan.goal (model.computing name rule body') situation goal := by
  cases goal with
  | formula asked =>
      have apart : ¬name = asked := fun same => h (same ▸ rfl)
      simp only [Plan.goal, formula, Model.getElem?_computing, apart, if_false]
  | default asked =>
      by_cases same : name = asked
      · simp only [Plan.goal, default, Model.getElem?_computing, same, if_true]
        rfl
      · simp only [Plan.goal, default, Model.getElem?_computing, same, if_false]

end Plan

namespace Setting

variable {setting : Setting}

/-- Inside a formula goal it does not matter how its rule is computed. -/
theorem worth_computing (body body' : Expression) :
    (setting.computing name rule body).worth [.formula name] =
      (setting.computing name rule body').worth [.formula name] := by
  funext goal
  have same : (setting.computing name rule body).pursue [.formula name] goal =
      (setting.computing name rule body').pursue [.formula name] goal := by
    refine pursue_congr_of_mem (by rfl) (fun goal apart => ?_) [.formula name] goal (.head _)
    exact Plan.goal_computing body body' apart
  rw [worth, worth, same]

theorem evaluate_eq_worth (room : setting.model.expressionCount < setting.maxDepth) :
    setting.evaluate name = setting.worth [] (.formula name) := by
  have found := result_run (.nil room) ((Query.rule name).plan setting.situation)
  rw [evaluate, answer_of_ok found]
  rfl

/-- A computed rule is worth its expression. -/
theorem evaluate_computing (room : (setting.computing name rule body).model.expressionCount < setting.maxDepth) :
    (setting.computing name rule body).evaluate name =
      (Plan.expression setting.situation name body).worth ((setting.computing name rule body).worth [.formula name]) := by
  have roomy : (setting.computing name rule body).Roomy [] := .nil room
  have opened := @result_pursue_of_not_mem _ _ roomy (.formula name) List.not_mem_nil
  have formula : (setting.computing name rule body).plan (.formula name) =
      Plan.expression setting.situation name body := Plan.formula_computing
  rw [evaluate_eq_worth room, worth, opened, formula]

end Setting

/-! ## The three places -/

namespace Expression

/-- The condition as the only case, which is worth one. -/
def asCase (text : String) : Expression :=
  .variations (.clause (.text text) (.number 1.0) .done)

end Expression

namespace Plan

variable {situation : Situation} {answers : Goal → Float} {text : String}

theorem ofTruth_eq_one_iff {holds : Bool} : ofTruth holds = 1.0 ↔ holds = true := by
  cases holds
  · exact iff_of_false (by decide +kernel) (by decide)
  · exact iff_of_true rfl rfl

theorem worth_asCase : (expression situation name (.asCase text)).worth answers =
    ofTruth ((condition situation (DottedName.merge name text)).worth answers) := by
  simp only [Expression.asCase, expression, choose, completed, worth_bind]
  cases (condition situation (DottedName.merge name text)).worth answers with
  | false => rfl
  | true =>
      have one : (1.0 : Float).isNaN = false := by decide +kernel
      simp only [nested, plain, one, Bool.false_eq_true, if_true, if_false, worth_done]
      rfl

theorem worth_alone (h : body = .anyOf [.text text] ∨ body = .allOf [.text text]) :
    (expression situation name body).worth answers = ofTruth ((condition situation text).worth answers) := by
  rcases h with rfl | rfl
  · simp only [expression, anyOf, proviso, worth_map, worth_bind]
    cases (condition situation text).worth answers <;> rfl
  · simp only [expression, allOf, proviso, worth_map, worth_bind]
    cases (condition situation text).worth answers <;> rfl

end Plan

namespace Setting

variable {setting : Setting} {text : String}

/-- The rule is worth one as a case if the completed text holds for the values that names have inside it. -/
theorem evaluate_asCase_iff
    (room : (setting.computing name rule (.asCase text)).model.expressionCount < setting.maxDepth) :
    (setting.computing name rule (.asCase text)).evaluate name = 1.0 ↔
      (Check.ofText (DottedName.merge name text)).holds setting.situation fun reference =>
        (Plan.value setting.situation reference).worth
          ((setting.computing name rule (.asCase text)).worth [.formula name]) := by
  rw [evaluate_computing room, Plan.worth_asCase, Plan.ofTruth_eq_one_iff, Check.worth_condition]

/-- It is worth one in the other places if the text itself holds for these values. -/
theorem evaluate_alone_iff (h : body = .anyOf [.text text] ∨ body = .allOf [.text text])
    (room : (setting.computing name rule (.asCase text)).model.expressionCount < setting.maxDepth) :
    (setting.computing name rule body).evaluate name = 1.0 ↔
      (Check.ofText text).holds setting.situation fun reference =>
        (Plan.value setting.situation reference).worth
          ((setting.computing name rule (.asCase text)).worth [.formula name]) := by
  have room' : (setting.computing name rule body).model.expressionCount < setting.maxDepth :=
    Nat.lt_of_le_of_lt (Model.expressionCount_computing body (.asCase text)) room
  rw [evaluate_computing room', Plan.worth_alone h, Plan.ofTruth_eq_one_iff, Check.worth_condition,
    worth_computing body (.asCase text)]

end Setting

/-! ## Names with given values -/

/-- A rule that gives its name a value of its own. -/
def Rule.given (values : String → Float) (name : String) : Rule :=
  ⟨none, some (.number (values name)), none⟩

def Model.given (values : String → Float) (first second : String) : Model :=
  .ofRows [(first, .rule (.given values first)), (second, .rule (.given values second))]

variable {values : String → Float} {first second asked : String} {situation : Situation} {maxDepth : Nat}

theorem Model.getElem?_given (h : asked = first ∨ asked = second) :
    (Model.given values first second)[asked]? = some (.rule (.given values asked)) := by
  simp only [given, NameTable.ofRows, List.foldl_cons, List.foldl_nil, NameTable.getElem?_insert_eq]
  rcases h with rfl | rfl
  · split
    · next same => rw [same]
    · rw [if_pos rfl]
  · rw [if_pos rfl]

/-- The default of a name is the value it was given, also where it is computed besides. -/
theorem Plan.default_given (h : asked = first ∨ asked = second) :
    Plan.default ((Model.given values first second).computing name (.given values name) body) situation asked =
      .done (values asked) := by
  rw [Plan.default, Model.getElem?_computing, Model.getElem?_given h]
  by_cases same : name = asked
  · subst same
    rw [if_pos rfl]
    rfl
  · rw [if_neg same]
    rfl

theorem Setting.worth_default_of_done {setting : Setting} {stack : Stack} {value : Float}
    (hstack : .default asked ∉ stack) (planned : setting.plan (.default asked) = .done value) :
    setting.worth stack (.default asked) = value := by
  rw [worth, pursue_of_open hstack (by simp [Goal.isFormula]), planned]
  rfl

/-- Whatever was answered, two names can have any values inside a formula goal. -/
theorem Setting.exists_given (values : String → Float) (name first second : String) (situation : Situation)
    (body : Expression) :
    ∃ (setting : Setting) (rule : Rule), setting.situation = situation ∧
      (setting.computing name rule body).model.expressionCount < setting.maxDepth ∧
      ∀ asked, asked = first ∨ asked = second →
        (setting.computing name rule body).worth [.formula name] (.default asked) = values asked := by
  let room := ((Model.given values first second).computing name (.given values name) body).expressionCount + 1
  exact ⟨⟨Model.given values first second, situation, room⟩, .given values name, rfl, Nat.lt_succ_self _,
    fun asked given => worth_default_of_done (by simp) (Plan.default_given given)⟩

/-- What a check compares, if it compares anything. -/
def Check.reference : Check → String
  | .compared reference _ _ => reference
  | _ => ""

/-- Where all answers are in words, a check holds as it would with the defaults for values. -/
theorem Check.holds_value {check : Check} (sound : check.IsSound) (worded : situation.IsWorded)
    {answers : Goal → Float} (given : answers (.default check.reference) = values check.reference) :
    (check.holds situation fun reference => (Plan.value situation reference).worth answers) =
      check.holds situation values := by
  cases sound with
  | never => rfl
  | answered => rfl
  | @compared reference op literal valid finite =>
      cases found : situation[reference]? with
      | some answer =>
          obtain ⟨text, rfl⟩ := worded reference answer found
          simp only [holds, found]
      | none =>
          have value : (Plan.value situation reference).worth answers = values reference := by
            rw [Plan.value, if_pos valid, Situation.number?, found]
            exact given
          simp only [holds, found, value]

/-- A condition alone in an any-of or an all-of of a rule always has the value that it has as a case exactly when its
    text checks the same once it is completed with the name of the rule. -/
theorem placed_alike_iff {name text : String} {body : Expression}
    (alone : body = .anyOf [.text text] ∨ body = .allOf [.text text]) :
    (∀ (setting : Setting) (rule : Rule),
      (setting.computing name rule (.asCase text)).model.expressionCount < setting.maxDepth →
        ((setting.computing name rule body).evaluate name = 1.0 ↔
          (setting.computing name rule (.asCase text)).evaluate name = 1.0)) ↔
      (Check.ofText text).agrees (Check.ofText (DottedName.merge name text)) := by
  have sound := Check.isSound_ofText text
  have sound' := Check.isSound_ofText (DottedName.merge name text)
  constructor
  · intro alike
    refine Check.agrees_of_holds sound sound' fun situation values worded => ?_
    obtain ⟨setting, rule, rfl, room, given⟩ := Setting.exists_given values name (Check.ofText text).reference
      (Check.ofText (DottedName.merge name text)).reference situation (.asCase text)
    have same := alike setting rule room
    rw [Setting.evaluate_alone_iff alone room, Setting.evaluate_asCase_iff room,
      Check.holds_value sound worded (given _ (.inl rfl)), Check.holds_value sound' worded (given _ (.inr rfl))] at same
    exact Bool.eq_iff_iff.2 same
  · intro agree setting rule room
    rw [Setting.evaluate_alone_iff alone room, Setting.evaluate_asCase_iff room,
      Check.holds_of_agrees sound sound' agree]

/-- In a model of this one rule, a reference that is written in full is read alike in all places. -/
theorem absolute_reference_alike :
    (Check.ofText "a . c > 3").agrees (Check.ofText (DottedName.merge "a . b" "a . c > 3")) ∧
    Setting.evaluate (Setting.computing ⟨∅, .ofRows [("a . c", .number 5)], 2⟩ "a . b" ⟨none, none, none⟩
      (.anyOf [.text "a . c > 3"])) "a . b" = 1.0 := by
  have agree : (Check.ofText "a . c > 3").agrees (Check.ofText (DottedName.merge "a . b" "a . c > 3")) := by
    decide +kernel
  have room : (Setting.computing ⟨∅, .ofRows [("a . c", .number 5)], 2⟩ "a . b" ⟨none, none, none⟩
      (.asCase "a . c > 3")).model.expressionCount < 2 := by
    decide +kernel
  have asCase : Setting.evaluate (Setting.computing ⟨∅, .ofRows [("a . c", .number 5)], 2⟩ "a . b" ⟨none, none, none⟩
      (.asCase "a . c > 3")) "a . b" = 1.0 := by
    decide +kernel
  exact ⟨agree, ((placed_alike_iff (.inl rfl)).2 agree _ _ room).2 asCase⟩

/-- A reference that leaves out what encloses the rule is only found as a case. -/
theorem relative_reference_apart :
    (Setting.computing ⟨∅, .ofRows [("a . c", .text "oui")], 2⟩ "a . b" ⟨none, none, none⟩
      (.asCase "c")).model.expressionCount < 2 ∧
    Setting.evaluate (Setting.computing ⟨∅, .ofRows [("a . c", .text "oui")], 2⟩ "a . b" ⟨none, none, none⟩
      (.asCase "c")) "a . b" = 1.0 ∧
    Setting.evaluate (Setting.computing ⟨∅, .ofRows [("a . c", .text "oui")], 2⟩ "a . b" ⟨none, none, none⟩
      (.anyOf [.text "c"])) "a . b" ≠ 1.0 ∧
    Setting.evaluate (Setting.computing ⟨∅, .ofRows [("a . c", .text "oui")], 2⟩ "a . b" ⟨none, none, none⟩
      (.allOf [.text "c"])) "a . b" ≠ 1.0 := by
  decide +kernel

/-- Completed beforehand, a condition has the same value alone as it has as a case. -/
theorem placed_alike_merge {setting : Setting} {name text : String} {rule : Rule} {body : Expression}
    (alone : body = .anyOf [.text (DottedName.merge name text)] ∨ body = .allOf [.text (DottedName.merge name text)])
    (room : (setting.computing name rule (.asCase text)).model.expressionCount < setting.maxDepth) :
    (setting.computing name rule body).evaluate name = (setting.computing name rule (.asCase text)).evaluate name := by
  have room' : (setting.computing name rule body).model.expressionCount < setting.maxDepth :=
    Nat.lt_of_le_of_lt (Model.expressionCount_computing body (.asCase text)) room
  rw [Setting.evaluate_computing room', Setting.evaluate_computing room, Plan.worth_alone alone, Plan.worth_asCase,
    Setting.worth_computing body (.asCase text)]

end CarbonSurvey
