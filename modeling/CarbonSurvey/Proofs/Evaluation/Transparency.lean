import CarbonSurvey.Proofs.Evaluation.Derivation
import CarbonSurvey.Proofs.Evaluation.Pursuit

/-! # The cycle guard is transparent

Cutting cycles and counting formulas never changes a value that plain evaluation has. Where a run
ends without a warning, its value is the plain one, whatever stack and limit it ran with
(`query_sound`). Where plain evaluation has a value, no goal is asked for inside itself, since the
goals asked for on the way are well-founded, so a fresh run with room for all formulas of the model
finds that value and warns of nothing (`query_complete`).
-/

namespace CarbonSurvey

variable {model : Model} {situation : Situation} {α : Type}

/-- The goal `inner` is asked for in the plain evaluation of `outer`. -/
def AskedBy (model : Model) (situation : Situation) (inner outer : Goal) : Prop :=
  (Plan.goal model situation outer).Asks (PlainAnswer model situation) inner

/-- Plain evaluation only has a value where the goals it asks for have theirs first. -/
theorem Plan.ComesTo.acc_of_asks {plan : Plan α} {worth : α} (h : plan.ComesTo model situation worth) :
    ∀ asked, plan.Asks (PlainAnswer model situation) asked → Acc (AskedBy model situation) asked := by
  induction h with
  | done value => exact fun _ hasked => hasked.elim
  | ask hgoal _ ihgoal ihnext =>
      rintro asked (rfl | ⟨other, hother, hasked⟩)
      · exact .intro asked ihgoal
      · obtain rfl := hgoal.unique hother
        exact ihnext asked hasked

theorem not_transGen_self_of_acc {relation : Goal → Goal → Prop} {goal : Goal} (h : Acc relation goal) :
    ¬ Relation.TransGen relation goal goal := by
  intro hself
  have hacc := h.transGen
  clear h
  induction hacc with
  | intro x _ ih => exact ih x hself hself

namespace Setting

variable {setting : Setting} {stack : Stack}

/-- What a goal comes to without a warning on some stack, it comes to without any stack. -/
theorem plainAnswer_of_pursue {goal : Goal} {worth : Float} (h : setting.pursue stack goal = .ok worth) :
    PlainAnswer setting.model setting.situation goal worth := by
  induction stack, goal using pursuit_induction setting generalizing worth with
  | cycle stack goal hstack => exact absurd hstack (pursue_eq_ok_iff.1 h).1
  | deep stack goal hstack hdeep => exact absurd hdeep (pursue_eq_ok_iff.1 h).2.1
  | opened stack goal hstack hdeep ih =>
      rw [plainAnswer_iff]
      exact (pursue_eq_ok_iff.1 h).2.2.mono fun asked hasked answer => ih asked hasked

theorem query_sound {query : Query} {reading : Reading} (h : setting.query stack query = .ok reading) :
    query.Derivable setting.model setting.situation reading := by
  rw [Query.derivable_iff, Plan.comesTo_iff_yields]
  exact (Plan.run_eq_ok_iff.1 h).mono fun asked _ answer => plainAnswer_of_pursue

/-- A stack that the goals of the model are enough for. -/
structure Roomy (setting : Setting) (stack : Stack) : Prop where
  distinct : stack.Nodup
  inside : ∀ goal ∈ stack, goal ∈ setting.model.goals
  room : setting.model.expressionCount < setting.maxDepth

namespace Roomy

theorem nil (room : setting.model.expressionCount < setting.maxDepth) : setting.Roomy [] :=
  ⟨List.nodup_nil, nofun, room⟩

theorem shallow (h : setting.Roomy stack) : stack.nesting < setting.maxDepth :=
  Nat.lt_of_le_of_lt (Stack.nesting_le_of_goals h.distinct h.inside) h.room

/-- Only a goal that asks for another needs its place on the stack. -/
theorem cons {goal asked : Goal} (h : setting.Roomy stack) (hstack : goal ∉ stack)
    (hasked : (setting.plan goal).MayAsk asked) : setting.Roomy (goal :: stack) where
  distinct := List.nodup_cons.2 ⟨hstack, h.distinct⟩
  inside := List.forall_mem_cons.2 ⟨Plan.mem_goals_of_mayAsk hasked, h.inside⟩
  room := h.room

theorem pursue_eq (h : setting.Roomy stack) {goal : Goal} (hstack : goal ∉ stack) :
    setting.pursue stack goal = (setting.plan goal).run (setting.pursue (goal :: stack)) := by
  have shallow := h.shallow
  rw [Setting.pursue_eq, if_neg hstack, if_neg (by omega)]

end Roomy

/-- With room for the goals of the model an evaluation ends well, cycles or not. -/
theorem pursue_result (goal : Goal) (h : setting.Roomy stack) :
    ∃ worth, (setting.pursue stack goal).result = .ok worth := by
  induction stack, goal using pursuit_induction setting with
  | cycle stack goal hstack =>
      rw [pursue_of_mem hstack]
      exact ⟨0.0, rfl⟩
  | deep stack goal hstack hdeep =>
      have shallow := h.shallow
      omega
  | opened stack goal hstack hdeep ih =>
      rw [pursue_of_open hstack hdeep]
      exact Plan.run_result fun asked hasked => ih asked hasked (h.cons hstack hasked)

/-- A plan with a plain value comes to it on a stack whose goals all ask for what it asks for. -/
theorem run_of_comesTo {plan : Plan α} {worth : α}
    (h : plan.ComesTo setting.model setting.situation worth)
    (hroom : ∀ asked, plan.MayAsk asked → setting.Roomy stack)
    (hasks : ∀ asked, plan.Asks (PlainAnswer setting.model setting.situation) asked →
      ∀ outer ∈ stack,
        Relation.TransGen (AskedBy setting.model setting.situation) asked outer) :
    plan.run (setting.pursue stack) = .ok worth := by
  induction h generalizing stack with
  | done value => rfl
  | @ask _ goal next answer worth hgoal hnext ihgoal ihnext =>
      have room := hroom goal (.inl rfl)
      have hstack : goal ∉ stack := by
        intro hmem
        have hacc := (Plan.ComesTo.ask hgoal hnext).acc_of_asks goal (.inl rfl)
        exact not_transGen_self_of_acc hacc (hasks goal (.inl rfl) goal hmem)
      have hpursue : setting.pursue stack goal = .ok answer := by
        rw [room.pursue_eq hstack]
        refine ihgoal (fun asked hasked => room.cons hstack hasked) ?_
        intro asked hasked outer hmem
        rcases List.mem_cons.1 hmem with rfl | hmem
        · exact .single hasked
        · exact .head hasked (hasks goal (.inl rfl) outer hmem)
      rw [Plan.run, hpursue, Outcome.ok_bind]
      refine ihnext (fun asked hasked => hroom asked (.inr ⟨answer, trivial, hasked⟩)) ?_
      exact fun asked hasked => hasks asked (.inr ⟨answer, hgoal, hasked⟩)

theorem query_complete {query : Query} {reading : Reading}
    (room : setting.model.expressionCount < setting.maxDepth)
    (h : query.Derivable setting.model setting.situation reading) :
    setting.query [] query = .ok reading :=
  run_of_comesTo (Query.derivable_iff.1 h) (fun _ _ => .nil room) (fun _ _ _ hmem => nomatch hmem)

theorem query_result (query : Query) (room : setting.model.expressionCount < setting.maxDepth) :
    ∃ reading, (setting.query [] query).result = .ok reading :=
  Plan.run_result fun goal _ => pursue_result goal (.nil room)

/-- In a fresh evaluation with room for all formulas, no warning means a plain value. -/
theorem query_warnings_eq_nil_iff (query : Query)
    (room : setting.model.expressionCount < setting.maxDepth) :
    (setting.query [] query).warnings = [] ↔
      ∃ reading, query.Derivable setting.model setting.situation reading := by
  constructor
  · intro hwarnings
    obtain ⟨reading, hresult⟩ := query_result query room
    have quiet : setting.query [] query = .ok reading := by
      simp only [Outcome.ok, ← hwarnings, ← hresult]
    exact ⟨reading, query_sound quiet⟩
  · rintro ⟨reading, h⟩
    rw [query_complete room h]
    rfl

end Setting

theorem Query.Derivable.unique {query : Query} {left right : Reading}
    (hleft : query.Derivable model situation left) (hright : query.Derivable model situation right) :
    left = right :=
  (Query.derivable_iff.1 hleft).unique (Query.derivable_iff.1 hright)

/-- The cycle guard is transparent. A fresh evaluation with room for all formulas of the model warns
    of nothing exactly when plain evaluation has a value, and that is then the answer. From any
    stack and under any limit, an answer without a warning is the plain one, which there is only
    one of. -/
theorem guard_transparent (model : Model) (situation : Situation) (query : Query) :
    (∀ maxDepth, model.expressionCount < maxDepth →
      ((Setting.query ⟨model, situation, maxDepth⟩ [] query).warnings = [] ↔
        ∃ reading, query.Derivable model situation reading) ∧
      ∀ reading, query.Derivable model situation reading →
        Setting.query ⟨model, situation, maxDepth⟩ [] query = .ok reading) ∧
    (∀ maxDepth stack reading,
      Setting.query ⟨model, situation, maxDepth⟩ stack query = .ok reading →
        query.Derivable model situation reading) ∧
    ∀ left right, query.Derivable model situation left → query.Derivable model situation right →
      left = right := by
  refine ⟨fun maxDepth room => ⟨?_, ?_⟩, ?_, ?_⟩
  · exact @Setting.query_warnings_eq_nil_iff ⟨model, situation, maxDepth⟩ query room
  · exact fun reading h => @Setting.query_complete ⟨model, situation, maxDepth⟩ query reading room h
  · exact fun maxDepth stack reading => Setting.query_sound
  · exact fun left right => Query.Derivable.unique

/-- Two sums that need each other, beside a name with a default. -/
def sumRing : Model :=
  .ofRows [("a", .rule ⟨none, none, some (.expression (.sum ["b", "c"]))⟩),
    ("b", .rule ⟨none, none, some (.expression (.sum ["a"]))⟩),
    ("c", .rule ⟨none, some (.number 5), none⟩)]

/-- The sums are worth nothing, and their cycle does not show in a value beside it. -/
theorem sumRing_values :
    sumRing.expressionCount < 3 ∧
    (∀ reading, ¬ Query.Derivable sumRing ∅ (.rule "a") reading) ∧
    Setting.query ⟨sumRing, ∅, 3⟩ [] (.value "c") = .ok (.number 5) ∧
    Query.Derivable sumRing ∅ (.default "c") (.number 5) := by
  have room : sumRing.expressionCount < 3 := by decide +kernel
  have found : sumRing["c"]? = some (.rule ⟨none, some (.number 5), none⟩) := by decide +kernel
  refine ⟨room, fun reading h => ?_, ?_, ?_⟩
  · have silent := ((guard_transparent sumRing ∅ (.rule "a")).1 3 room).1.2 ⟨reading, h⟩
    have warned : (Setting.query ⟨sumRing, ∅, 3⟩ [] (.rule "a")).warnings ≠ [] := by decide +kernel
    exact warned silent
  · refine ((guard_transparent sumRing ∅ (.value "c")).1 3 room).2 (.number 5) ?_
    exact .valueDefault (by decide +kernel) (by decide +kernel) (.defaultNumber found (.unguarded rfl) rfl)
  -- on the stack of the cycle and under a limit without room for another formula
  · have asked : Setting.query ⟨sumRing, ∅, 1⟩ [.formula "a"] (.default "c") = .ok (.number 5) := by
      have plan : Plan.goal sumRing ∅ (.default "c") = .done 5 := by
        simp only [Plan.goal, Plan.default, found]
        rfl
      simp only [Setting.query, Setting.run, Query.plan, Plan.map, Plan.run_bind, Plan.run_ofGoal]
      rw [Setting.pursue_eq, if_neg (by decide), if_neg (by decide), Setting.plan, plan]
      rfl
    exact (guard_transparent sumRing ∅ (.default "c")).2.1 1 [.formula "a"] (.number 5) asked

end CarbonSurvey
