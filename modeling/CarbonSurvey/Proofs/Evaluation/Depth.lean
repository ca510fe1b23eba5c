import CarbonSurvey.Proofs.Evaluation.Moments
import CarbonSurvey.Proofs.Evaluation.Mention
import Mathlib.Data.List.Nodup

/-! # How deep stacks get

Only formulas count against the depth limit. No formula stands on another one, so a stack stays within
twice the limit as long as no default stands on a default. The defaults that wait for the default of
another name are what it can exceed that by, and a row of them stands on one stack under any limit, even
where the limit allows no formula at all.
-/

namespace CarbonSurvey

/-- The names of a model whose defaults wait for the default of another name. -/
def Model.waitingNames (model : Model) (situation : Situation) : List String :=
  model.names.filter fun name =>
    (model.comparedBy? name).any fun other => other ≠ name && situation.isOpen other

/-- The default of one of these names. -/
def Goal.isDefaultOf (names : List String) : Goal → Bool
  | .formula _ => false
  | .default name => names.contains name

variable {model : Model} {situation : Situation} {setting : Setting} {stack : Stack}

theorem Model.mem_waitingNames {name : String} :
    name ∈ model.waitingNames situation ↔ ∃ other, other ≠ name ∧ Waits model situation name other := by
  simp only [waitingNames, List.mem_filter, Option.any_eq_true, Bool.and_eq_true, decide_eq_true_eq]
  constructor
  · rintro ⟨_, other, compared, differs, isOpen⟩
    exact ⟨other, differs, compared, isOpen⟩
  · rintro ⟨other, differs, compared, isOpen⟩
    refine ⟨?_, other, compared, differs, isOpen⟩
    match found : model[name]? with
    | some entry =>
        have hrow := Std.ExtTreeMap.mem_toList_iff_getElem?_eq_some.2 found
        exact List.mem_map.2 ⟨(name, entry), hrow, rfl⟩
    | none => simp [Model.comparedBy?, Model.rule?, found] at compared

namespace Stack

/-- Where defaults stand on formulas or on defaults that wait, formulas and waiting defaults account
    for all goals but the one on top. -/
theorem length_le_of_linked {waiting : Goal → Bool}
    (linked : stack.IsChain fun upper lower => upper.isFormula ∨ lower.isFormula ∨ waiting lower) :
    stack.length ≤ 2 * stack.nesting + stack.countP waiting + 1 ∧
      ∀ top ∈ stack.head?, top.isFormula ∨ waiting top →
        stack.length ≤ 2 * stack.nesting + stack.countP waiting := by
  induction linked with
  | nil => simp
  | singleton goal =>
      refine ⟨by simp, ?_⟩
      rintro top ⟨⟩ (h | h)
      · simp only [nesting, List.countP_singleton, List.length_singleton, h, if_true]
        omega
      · simp only [List.countP_singleton, List.length_singleton, h, if_true]
        omega
  | @cons_cons upper lower rest hlink _ ih =>
      obtain ⟨below, below_top⟩ := ih
      have below_top := below_top lower rfl
      rcases hlink with hupper | hlower
      -- a formula makes up for itself and for whatever it stands on
      · have grows := (List.sublist_cons_self upper (lower :: rest)).countP_le (p := waiting)
        have deeper : Stack.nesting (upper :: lower :: rest) = Stack.nesting (lower :: rest) + 1 :=
          List.countP_cons_of_pos hupper
        rw [List.length_cons (a := upper)]
        exact ⟨by omega, fun _ _ _ => by omega⟩
      · have below := below_top hlower
        have deeper := (List.sublist_cons_self upper (lower :: rest)).countP_le (p := Goal.isFormula)
        have grows := (List.sublist_cons_self upper (lower :: rest)).countP_le (p := waiting)
        simp only [nesting] at below ⊢
        rw [List.length_cons (a := upper)]
        refine ⟨by omega, ?_⟩
        rintro top ⟨⟩ (h | h)
        · rw [List.countP_cons_of_pos h]
          omega
        · rw [List.countP_cons_of_pos (p := waiting) h]
          omega

theorem countP_isDefaultOf_le (distinct : stack.Nodup) (names : List String) :
    stack.countP (Goal.isDefaultOf names) ≤ names.length := by
  have injective : ∀ left ∈ stack.filter (Goal.isDefaultOf names),
      ∀ right ∈ stack.filter (Goal.isDefaultOf names), left.name = right.name → left = right := by
    intro left hleft right hright same
    cases left <;> cases right <;> simp_all [Goal.isDefaultOf, Goal.name]
  have named : ∀ name ∈ (stack.filter (Goal.isDefaultOf names)).map Goal.name, name ∈ names := by
    intro name hname
    obtain ⟨goal, hgoal, rfl⟩ := List.mem_map.1 hname
    cases goal <;> simp_all [Goal.isDefaultOf, Goal.name]
  have bound := List.subperm_of_subset (List.Nodup.map_on injective (distinct.filter _)) named
  rw [List.countP_eq_length_filter, ← List.length_map (f := Goal.name)]
  exact bound.length_le

end Stack

/-- A goal stands on one of the other kind, or it is the default that a default waits for. -/
def Link (model : Model) (situation : Situation) (upper lower : Goal) : Prop :=
  upper.isFormula ≠ lower.isFormula ∨
    upper.isFormula = false ∧ lower.isDefaultOf (model.waitingNames situation)

theorem isFormula_or_of_ne {upper lower : Goal} (kinds : upper.isFormula ≠ lower.isFormula) :
    upper.isFormula ∨ lower.isFormula := by
  cases hupper : upper.isFormula with
  | true => exact .inl rfl
  | false => exact .inr (eq_true_of_ne_false fun hlower => kinds (hupper.trans hlower.symm))

theorem link_of_mayAsk {upper lower : Goal} (hasked : (Plan.goal model situation lower).MayAsk upper)
    (distinct : upper ≠ lower) : Link model situation upper lower := by
  cases lower with
  | formula name =>
      obtain ⟨other, -, rfl⟩ := Plan.asksWithin_formula name upper hasked
      exact .inl Bool.false_ne_true
  | default name =>
      cases upper with
      | formula other => exact .inl Bool.false_ne_true.symm
      | default other =>
          have waits := Plan.mayAsk_default.1 hasked
          have differs : other ≠ name := fun same => distinct (congrArg Goal.default same)
          have listed := Model.mem_waitingNames.2 ⟨other, differs, waits⟩
          exact .inr ⟨rfl, List.contains_iff_mem.2 listed⟩

namespace Setting

theorem Regular.links (h : setting.Regular stack) :
    stack.IsChain (Link setting.model setting.situation) := by
  have distinct := h.distinct
  have linked := h.linked
  clear h
  induction linked with
  | nil => exact .nil
  | singleton goal => exact .singleton goal
  | cons_cons hasked _ ih =>
      rw [List.nodup_cons] at distinct
      refine .cons_cons (link_of_mayAsk hasked ?_) (ih distinct.2)
      rintro rfl
      exact distinct.1 List.mem_cons_self

/-- Formulas keep to the limit, and the waiting defaults are as many as their names. -/
theorem Regular.length_le_of_limit (h : setting.Regular stack) :
    stack.length ≤ 2 * setting.maxDepth + 1 + (setting.model.waitingNames setting.situation).length := by
  have linked : stack.IsChain fun upper lower => upper.isFormula ∨ lower.isFormula ∨
      lower.isDefaultOf (setting.model.waitingNames setting.situation) := by
    refine h.links.imp fun upper lower link => ?_
    rcases link with kinds | ⟨-, waiting⟩
    · exact (isFormula_or_of_ne kinds).imp_right .inl
    · exact .inr (.inr waiting)
  have bound := (Stack.length_le_of_linked linked).1
  have waiting := Stack.countP_isDefaultOf_le h.distinct (setting.model.waitingNames setting.situation)
  have shallow := h.shallow
  omega

/-- Defaults that wait for one another all stand on one stack, however low the limit is. -/
theorem occurs_of_waits {α : Type} {name : String} {rest : List String} {next : Float → Plan α}
    (waits : (name :: rest).IsChain (Waits setting.model setting.situation))
    (distinct : (name :: rest).Nodup) (fresh : ∀ other ∈ name :: rest, .default other ∉ stack) :
    setting.Occurs stack (.ask (.default name) next)
      (((name :: rest).map Goal.default).reverse ++ stack) := by
  induction rest generalizing α stack name with
  | nil => exact .inside (fresh name List.mem_cons_self) (by simp [Goal.isFormula]) .here
  | cons other rest ih =>
      obtain ⟨first_waits, rest_wait⟩ := List.isChain_cons_cons.1 waits
      obtain ⟨outside, rest_distinct⟩ := List.nodup_cons.1 distinct
      obtain ⟨inner, hplan⟩ := Plan.goal_default_of_waits first_waits
      refine .inside (fresh name List.mem_cons_self) (by simp [Goal.isFormula]) ?_
      rw [plan, hplan]
      have still_fresh : ∀ later ∈ other :: rest, .default later ∉ .default name :: stack := by
        intro later hlater
        rw [List.mem_cons, not_or]
        refine ⟨?_, fresh later (List.mem_cons_of_mem _ hlater)⟩
        rintro ⟨⟩
        exact outside hlater
      have deeper : setting.Occurs (.default name :: stack) (.ask (.default other) inner)
          (((other :: rest).map Goal.default).reverse ++ .default name :: stack) :=
        ih rest_wait rest_distinct still_fresh
      simpa using deeper

end Setting

theorem occursIn_of_waits {name : String} {rest : List String} (maxDepth : Nat)
    (waits : (name :: rest).IsChain (Waits model situation)) (distinct : (name :: rest).Nodup) :
    Setting.OccursIn ⟨model, situation, maxDepth⟩ (.default name)
      ((name :: rest).map Goal.default).reverse := by
  have occurs : Setting.Occurs ⟨model, situation, maxDepth⟩ []
      (.ask (.default name) fun answer => .done (Reading.number answer))
      (((name :: rest).map Goal.default).reverse ++ []) :=
    Setting.occurs_of_waits waits distinct fun _ _ => List.not_mem_nil
  rwa [List.append_nil] at occurs

/-- Stacks stay within twice the limit, and never put one default on another, exactly where no default
    waits for the default of another name. The waiting names are the most that a stack exceeds its
    bound by, and defaults that wait for one another fill a stack whatever the limit is. A formula never
    stands on a formula. -/
theorem stack_bound_iff (model : Model) (situation : Situation) :
    (∀ maxDepth query moment, Setting.OccursIn ⟨model, situation, maxDepth⟩ query moment →
      moment.length ≤ 2 * maxDepth + 1 + (model.waitingNames situation).length ∧
      moment.IsChain fun upper lower => ¬ (upper.isFormula ∧ lower.isFormula)) ∧
    ((∀ maxDepth query moment, Setting.OccursIn ⟨model, situation, maxDepth⟩ query moment →
      moment.length ≤ 2 * maxDepth + 1) ↔ model.waitingNames situation = []) ∧
    ((∀ maxDepth query moment, Setting.OccursIn ⟨model, situation, maxDepth⟩ query moment →
      moment.IsChain fun upper lower => upper.isFormula ∨ lower.isFormula) ↔
        model.waitingNames situation = []) ∧
    ∀ maxDepth name rest, (name :: rest).IsChain (Waits model situation) → (name :: rest).Nodup →
      Setting.OccursIn ⟨model, situation, maxDepth⟩ (.default name)
        ((name :: rest).map Goal.default).reverse := by
  have two_defaults : model.waitingNames situation ≠ [] → ∃ name other,
      ∀ maxDepth, Setting.OccursIn ⟨model, situation, maxDepth⟩ (.default name)
        [.default other, .default name] := by
    intro nonempty
    obtain ⟨name, listed⟩ := List.exists_mem_of_ne_nil _ nonempty
    obtain ⟨other, differs, waits⟩ := Model.mem_waitingNames.1 listed
    refine ⟨name, other, fun maxDepth => ?_⟩
    exact occursIn_of_waits maxDepth (.cons_cons waits (.singleton other)) (by simp [differs.symm])
  refine ⟨fun maxDepth query moment h => ⟨h.regular.length_le_of_limit, ?_⟩, ⟨?_, ?_⟩, ⟨?_, ?_⟩, ?_⟩
  · refine h.regular.links.imp fun upper lower link => ?_
    rintro ⟨hupper, hlower⟩
    rcases link with kinds | ⟨default, -⟩
    · exact kinds (hupper.trans hlower.symm)
    · exact Bool.false_ne_true (default.symm.trans hupper)
  · intro bounded
    by_contra nonempty
    obtain ⟨name, other, occurs⟩ := two_defaults nonempty
    have short := bounded 0 _ _ (occurs 0)
    simp at short
  · intro none_waits maxDepth query moment h
    have bound := h.regular.length_le_of_limit
    rwa [none_waits, List.length_nil, Nat.add_zero] at bound
  · intro apart
    by_contra nonempty
    obtain ⟨name, other, occurs⟩ := two_defaults nonempty
    have linked := apart 0 _ _ (occurs 0)
    simp [Goal.isFormula] at linked
  · intro none_waits maxDepth query moment h
    refine h.regular.links.imp fun upper lower link => ?_
    rcases link with kinds | ⟨-, waiting⟩
    · exact isFormula_or_of_ne kinds
    · rw [none_waits] at waiting
      cases lower <;> simp [Goal.isDefaultOf] at waiting
  · exact fun maxDepth name rest waits distinct => occursIn_of_waits maxDepth waits distinct

/-- Three names of which each has a guard that compares the next, and the last the first. -/
def guardRing : Model :=
  .ofRows [("a", .rule ⟨some (.text "b > 0"), some (.number 5), none⟩),
    ("b", .rule ⟨some (.text "c > 0"), some (.number 3), none⟩),
    ("c", .rule ⟨some (.text "a > 0"), some (.number 2), none⟩)]

theorem guardRing_unbounded :
    (¬ ∀ maxDepth query moment, Setting.OccursIn ⟨guardRing, ∅, maxDepth⟩ query moment →
      moment.length ≤ 2 * maxDepth + 1) ∧
    ∀ maxDepth,
      Setting.OccursIn ⟨guardRing, ∅, maxDepth⟩ (.default "b") [.default "c", .default "b"] := by
  refine ⟨fun bounded => ?_, fun maxDepth => ?_⟩
  · have none_waits := (stack_bound_iff guardRing ∅).2.1.1 bounded
    have waiting : guardRing.waitingNames ∅ ≠ [] := by decide +kernel
    exact waiting none_waits
  · refine (stack_bound_iff guardRing ∅).2.2.2 maxDepth "b" ["c"] ?_ (by decide)
    exact .cons_cons ⟨by decide +kernel, by decide +kernel⟩ (.singleton "c")

/-- Under a limit that allows no formula all three defaults stand on one another, and the warning of the
    cycle shows them. -/
theorem stack_exceeds_twice_limit :
    (∃ moment, Setting.OccursIn ⟨guardRing, ∅, 0⟩ (.default "a") moment ∧ ¬ moment.length ≤ 2 * 0 + 1 ∧
      ¬ moment.IsChain fun upper lower => upper.isFormula ∨ lower.isFormula) ∧
    (Setting.query ⟨guardRing, ∅, 0⟩ [] (.default "a")).warnings.map Warning.path =
      [["a", "b", "c", "a"]] := by
  have waits : ["a", "b", "c"].IsChain (Waits guardRing ∅) :=
    .cons_cons ⟨by decide +kernel, by decide +kernel⟩
      (.cons_cons ⟨by decide +kernel, by decide +kernel⟩ (.singleton "c"))
  refine ⟨⟨_, occursIn_of_waits 0 waits (by decide), by decide, ?_⟩, by decide +kernel⟩
  simp [Goal.isFormula]

end CarbonSurvey
