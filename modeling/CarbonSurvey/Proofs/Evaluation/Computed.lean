import CarbonSurvey.Proofs.Evaluation.Pursuit
import CarbonSurvey.Proofs.Evaluation.Transparency

/-! # Rules that are computed

A rule with a formula and neither guard nor default is worth its formula, also where its default is asked for. The
default goal stands below the formula goal then, and cycles through the name are cut at the one or at the other. Either
way they are worth zero and earn a warning of this name, so nothing that is computed on such a stack can tell whether
the default goal is there (`alike_pursue`).
-/

namespace CarbonSurvey

namespace Outcome

variable {α β : Type}

/-- The two have come to the same, with warnings of the same names. The paths of the warnings may differ. -/
structure Alike (left right : Outcome α) : Prop where
  result : left.result = right.result
  names : left.warnings.map Warning.name = right.warnings.map Warning.name

theorem Alike.refl (outcome : Outcome α) : outcome.Alike outcome :=
  ⟨rfl, rfl⟩

theorem alike_warn (name : String) (left right : List String) (value : α) :
    (warn ⟨name, left⟩ value).Alike (warn ⟨name, right⟩ value) :=
  ⟨rfl, rfl⟩

theorem Alike.bind {left right : Outcome α} {next other : α → Outcome β} (h : left.Alike right)
    (hnext : ∀ value, (next value).Alike (other value)) : (left.bind next).Alike (right.bind other) := by
  obtain ⟨warnings, result⟩ := left
  obtain ⟨others, _⟩ := right
  obtain ⟨rfl, names⟩ := h
  cases result with
  | error error => exact ⟨rfl, names⟩
  | ok value =>
      refine ⟨(hnext value).result, ?_⟩
      simp only [Outcome.bind, List.map_append]
      exact congrArg₂ (· ++ ·) names (hnext value).names

end Outcome

theorem Plan.alike_run {α : Type} {pursue other : Goal → Outcome Float} {plan : Plan α}
    (h : ∀ asked, plan.MayAsk asked → (pursue asked).Alike (other asked)) :
    (plan.run pursue).Alike (plan.run other) := by
  induction plan with
  | done value => exact .refl _
  | ask goal next ih =>
      refine (h goal (.inl rfl)).bind fun answer => ?_
      exact ih answer fun asked hasked => h asked (.inr ⟨answer, trivial, hasked⟩)

namespace Setting

variable {setting : Setting} {name : String}

/-- A default that stands for the formula of its name may lie below it on the stack or not. -/
theorem alike_pursue (computed : setting.plan (.default name) = .ofGoal (.formula name)) {above : Stack}
    (fresh : .default name ∉ above) (goal : Goal) :
    (setting.pursue (above ++ [.formula name, .default name]) goal).Alike
      (setting.pursue (above ++ [.formula name]) goal) := by
  have level (above : Stack) : Stack.nesting (above ++ [.formula name, .default name]) =
      Stack.nesting (above ++ [.formula name]) := by
    rw [Stack.nesting, Stack.nesting, List.countP_append, List.countP_append]
    rfl
  generalize hstack : above ++ [Goal.formula name] = stack
  induction stack, goal using pursuit_induction setting generalizing above with
  | cycle stack goal hmem =>
      subst hstack
      have also_mem : goal ∈ above ++ [.formula name, .default name] := by
        rw [List.mem_append, List.mem_singleton] at hmem
        rw [List.mem_append, List.mem_cons]
        exact hmem.imp_right .inl
      rw [pursue_of_mem hmem, pursue_of_mem also_mem]
      exact Outcome.alike_warn goal.name _ _ 0.0
  | deep stack goal hmem hdeep =>
      subst hstack
      have apart : goal ≠ .default name := by
        rintro rfl
        cases hdeep.1
      have also_fresh : goal ∉ above ++ [.formula name, .default name] := by
        simpa [apart] using hmem
      rw [pursue_of_deep hmem hdeep, pursue_of_deep also_fresh (by rwa [level]), level]
      exact .refl _
  | opened stack goal hmem hdeep ih =>
      subst hstack
      rw [pursue_of_open hmem hdeep]
      by_cases same : goal = .default name
      -- the one run is cut at the default, the other goes on to the formula and is cut there
      · subst same
        have below : Goal.default name ∈ above ++ [.formula name, .default name] := by simp
        have beneath : Goal.formula name ∈ .default name :: (above ++ [.formula name]) := by simp
        rw [pursue_of_mem below, computed, Plan.run_ofGoal, pursue_of_mem beneath]
        exact Outcome.alike_warn name _ _ 0.0
      · have also_fresh : goal ∉ above ++ [.formula name, .default name] := by
          simpa [same] using hmem
        rw [pursue_of_open also_fresh (by rwa [level])]
        refine Plan.alike_run fun asked hasked => ?_
        exact @ih asked hasked (goal :: above) (by simp [fresh, Ne.symm same]) rfl

/-- The default goal adds nothing to the formula goal that it stands for. -/
theorem alike_default (computed : setting.plan (.default name) = .ofGoal (.formula name)) :
    (setting.pursue [] (.default name)).Alike (setting.pursue [] (.formula name)) := by
  have opened : ¬ ((Goal.default name).isFormula ∧ setting.maxDepth ≤ Stack.nesting []) :=
    fun h => Bool.false_ne_true h.1
  have apart : Goal.formula name ∉ [Goal.default name] := by simp
  rw [pursue_of_open List.not_mem_nil opened, computed, Plan.run_ofGoal]
  by_cases hdeep : (Goal.formula name).isFormula ∧ setting.maxDepth ≤ Stack.nesting []
  · rw [pursue_of_deep List.not_mem_nil hdeep, pursue_of_deep apart hdeep]
    exact .refl _
  · rw [pursue_of_open List.not_mem_nil hdeep, pursue_of_open apart hdeep]
    have fresh : Goal.default name ∉ ([] : Stack) := List.not_mem_nil
    exact Plan.alike_run fun asked _ => alike_pursue computed fresh asked

theorem plan_default_of_computed {formula : Formula}
    (found : setting.model[name]? = some (.rule ⟨none, none, some formula⟩)) :
    setting.plan (.default name) = .ofGoal (.formula name) := by
  simp [plan, Plan.goal, Plan.default, found, Plan.guard, Plan.bind, Plan.ruleDefault]

end Setting

/-- A rule with a formula, no guard and no default has one value. Whether its formula or its default is asked for, and
    whatever cycles there are in the model, the result is the same: the same value, or the same error with the same
    depth in it. The warnings are as many and of the same names in the same order. -/
theorem computed_rule_has_one_value (setting : Setting) {name : String} {formula : Formula}
    (found : setting.model[name]? = some (.rule ⟨none, none, some formula⟩)) :
    (setting.query [] (.default name)).result = (setting.query [] (.rule name)).result ∧
    (setting.answer (.default name)).reading = (setting.answer (.rule name)).reading ∧
    (setting.query [] (.default name)).warnings.map Warning.name =
      (setting.query [] (.rule name)).warnings.map Warning.name := by
  have goals := Setting.alike_default (Setting.plan_default_of_computed found)
  have queries : (setting.query [] (.default name)).Alike (setting.query [] (.rule name)) := by
    simp only [Setting.query, Setting.run, Query.plan, Plan.map, Plan.run_bind, Plan.run_ofGoal]
    exact goals.bind fun value => .refl _
  refine ⟨queries.result, ?_, queries.names⟩
  cases hresult : (setting.query [] (.default name)).result with
  | ok reading =>
      rw [Setting.answer_of_ok hresult, Setting.answer_of_ok (queries.result ▸ hresult)]
  | error error =>
      rw [Setting.answer_of_error hresult, Setting.answer_of_error (queries.result ▸ hresult)]
      rfl

/-- The sum that needs itself by way of another sum comes to what is beside the cycle, and fails where the other sum
    would be too deep. -/
theorem sumRing_one_value :
    sumRing["a"]? = some (.rule ⟨none, none, some (.expression (.sum ["b", "c"]))⟩) ∧
    (Setting.query ⟨sumRing, ∅, 2⟩ [] (.default "a")).result = .ok (.number 5) ∧
    (Setting.answer ⟨sumRing, ∅, 2⟩ (.default "a")).reading = (Setting.answer ⟨sumRing, ∅, 2⟩ (.rule "a")).reading ∧
    (Setting.query ⟨sumRing, ∅, 1⟩ [] (.default "a")).result = .error (.tooDeep "b" 1 2) := by
  have found : sumRing["a"]? = some (.rule ⟨none, none, some (.expression (.sum ["b", "c"]))⟩) := by
    decide +kernel
  have ends_well : (Setting.query ⟨sumRing, ∅, 2⟩ [] (.rule "a")).result = .ok (.number 5) := by
    decide +kernel
  have fails : (Setting.query ⟨sumRing, ∅, 1⟩ [] (.rule "a")).result = .error (.tooDeep "b" 1 2) := by
    decide +kernel
  have roomy := computed_rule_has_one_value ⟨sumRing, ∅, 2⟩ found
  have tight := computed_rule_has_one_value ⟨sumRing, ∅, 1⟩ found
  exact ⟨found, roomy.1.trans ends_well, roomy.2.1, tight.1.trans fails⟩

end CarbonSurvey
