import CarbonSurvey.Proofs.Evaluation.CutOff
import CarbonSurvey.Proofs.Evaluation.Moments

/-! # How evaluations fail

An evaluation fails where a formula would nest deeper than the limit allows, and in no other way. A run that
fails breaks off at one of its moments, with a stack that is at the limit already (`breaksOff_run`), and as
fresh evaluations never go past the limit, the depth that the error gives is always one more than the limit.
-/

namespace CarbonSurvey

namespace Reply

/-- How many errors are on record. -/
def errorCount (reply : Reply) : Nat :=
  reply.events.countP fun event => event.level = "ERROR"

end Reply

namespace Setting

variable {setting : Setting} {stack : Stack} {error : Error}

/-- The error is that of a run which came to a formula with no room for it on the stack of that moment. -/
def BreaksOff {α : Type} (setting : Setting) (stack : Stack) (plan : Plan α) (error : Error) : Prop :=
  ∃ moment name, setting.Occurs stack plan moment ∧ .formula name ∉ moment ∧
    setting.maxDepth ≤ moment.nesting ∧ error = .tooDeep name setting.maxDepth (moment.nesting + 1)

/-- A run fails with the first of its goals that fails. -/
theorem breaksOff_run {α : Type} {plan : Plan α} (hresult : (setting.run stack plan).result = .error error)
    (hgoals : ∀ asked, plan.MayAsk asked → ∀ {β : Type} (next : Float → Plan β),
      (setting.pursue stack asked).result = .error error → setting.BreaksOff stack (.ask asked next) error) :
    setting.BreaksOff stack plan error := by
  induction plan with
  | done value => cases hresult
  | ask goal next ih =>
      simp only [run, Plan.run, Outcome.bind] at hresult
      split at hresult
      · next answer hanswer =>
        obtain ⟨moment, name, occurs, rest⟩ := ih answer hresult fun asked hasked =>
          hgoals asked (.inr ⟨answer, trivial, hasked⟩)
        exact ⟨moment, name, .after hanswer occurs, rest⟩
      · next failure hfailure =>
        obtain rfl : failure = error := by simpa using hresult
        exact hgoals goal (.inl rfl) next hfailure

theorem breaksOff_pursue {goal : Goal} (hresult : (setting.pursue stack goal).result = .error error)
    {α : Type} (next : Float → Plan α) : setting.BreaksOff stack (.ask goal next) error := by
  induction stack, goal using pursuit_induction setting generalizing α with
  | cycle stack goal hstack =>
      rw [pursue_of_mem hstack] at hresult
      cases hresult
  | deep stack goal hstack hdeep =>
      rw [pursue_of_deep hstack hdeep] at hresult
      obtain ⟨⟩ := hresult
      cases goal with
      | formula name => exact ⟨stack, name, .here, hstack, hdeep.2, rfl⟩
      | default name => exact absurd hdeep.1 Bool.false_ne_true
  | opened stack goal hstack hdeep ih =>
      rw [pursue_of_open hstack hdeep] at hresult
      obtain ⟨moment, name, occurs, rest⟩ :=
        breaksOff_run hresult fun asked hasked _ next hfails => ih asked hasked hfails next
      exact ⟨moment, name, .inside hstack hdeep occurs, rest⟩

/-- A fresh evaluation that fails is at the limit, and not past it. -/
theorem exists_moment_of_query_error {query : Query}
    (hresult : (setting.query [] query).result = .error error) :
    ∃ moment name, setting.OccursIn query moment ∧ moment.nesting = setting.maxDepth ∧
      .formula name ∉ moment ∧ error = .tooDeep name setting.maxDepth (setting.maxDepth + 1) := by
  obtain ⟨moment, name, occurs, fresh, deep, rfl⟩ :=
    breaksOff_run hresult fun _ _ _ next hfails => breaksOff_pursue hfails next
  have shallow := (OccursIn.regular occurs).shallow
  have level : moment.nesting = setting.maxDepth := Nat.le_antisymm shallow deep
  exact ⟨moment, name, occurs, level, fresh, by rw [level]⟩

theorem countP_error_cycles (warnings : List Warning) :
    (warnings.map Event.cycle).countP (fun event => event.level = "ERROR") = 0 := by
  simp [Event.level]

end Setting

/-- The depth limit is the only thing that an evaluation fails for. Formulas never nest deeper than the limit
    allows, and an evaluation that fails was at the limit and had to open one more, which is the depth that
    its error gives. The answer to a query that failed is zero or false, and one error is on record after all
    warnings; any other query is answered with what its evaluation found, and no error is on record. -/
theorem limit_is_only_failure (model : Model) (situation : Situation) (maxDepth : Nat) (query : Query) :
    (∀ moment, Setting.OccursIn ⟨model, situation, maxDepth⟩ query moment → moment.nesting ≤ maxDepth) ∧
    (∀ error, (Setting.query ⟨model, situation, maxDepth⟩ [] query).result = .error error →
      (∃ moment name, Setting.OccursIn ⟨model, situation, maxDepth⟩ query moment ∧ moment.nesting = maxDepth ∧
        .formula name ∉ moment ∧
        error = .limitExceeded "max_resolution_depth" (toString maxDepth) (toString (maxDepth + 1))
          ("Resolving '" ++ name ++ "' nests too deeply; flatten the model or raise the limit")) ∧
      Setting.answer ⟨model, situation, maxDepth⟩ query = ⟨query.fallback,
        (Setting.query ⟨model, situation, maxDepth⟩ [] query).warnings.map .cycle ++
          [.failure query.subject situation error]⟩ ∧
      (Setting.answer ⟨model, situation, maxDepth⟩ query).errorCount = 1) ∧
    (∀ reading, (Setting.query ⟨model, situation, maxDepth⟩ [] query).result = .ok reading →
      Setting.answer ⟨model, situation, maxDepth⟩ query =
        ⟨reading, (Setting.query ⟨model, situation, maxDepth⟩ [] query).warnings.map .cycle⟩ ∧
      (Setting.answer ⟨model, situation, maxDepth⟩ query).errorCount = 0) := by
  refine ⟨fun moment h => h.regular.shallow, fun error h => ⟨?_, ?_, ?_⟩, fun reading h => ⟨?_, ?_⟩⟩
  · exact Setting.exists_moment_of_query_error h
  · exact Setting.answer_of_error h
  · rw [Setting.answer_of_error h, Reply.errorCount, List.countP_append, Setting.countP_error_cycles]
    simp [Event.level]
  · exact Setting.answer_of_ok h
  · rw [Setting.answer_of_ok h, Reply.errorCount, Setting.countP_error_cycles]

/-- Just below its threshold the sum first warns of its cycle and then fails. From there on it only warns. -/
theorem selfSum_fails :
    (Setting.query ⟨selfSum, ∅, 1⟩ [] (.rule "a")).result = .error (.tooDeep "c" 1 2) ∧
    Setting.answer ⟨selfSum, ∅, 1⟩ (.rule "a") =
      ⟨.number 0, [.cycle ⟨"a", ["a", "a", "a"]⟩, .failure "a" ∅ (.tooDeep "c" 1 2)]⟩ ∧
    Setting.answer ⟨selfSum, ∅, 2⟩ (.rule "a") = ⟨.number 0, [.cycle ⟨"a", ["a", "a", "a"]⟩]⟩ := by
  have fails : (Setting.query ⟨selfSum, ∅, 1⟩ [] (.rule "a")).result = .error (.tooDeep "c" 1 2) := by
    decide +kernel
  have ends_well : (Setting.query ⟨selfSum, ∅, 2⟩ [] (.rule "a")).result = .ok (.number 0) := by
    decide +kernel
  have warns (limit : Nat) (hlimit : limit = 1 ∨ limit = 2) :
      (Setting.query ⟨selfSum, ∅, limit⟩ [] (.rule "a")).warnings = [⟨"a", ["a", "a", "a"]⟩] := by
    rcases hlimit with rfl | rfl <;> decide +kernel
  have failed := ((limit_is_only_failure selfSum ∅ 1 (.rule "a")).2.1 _ fails).2.1
  have answered := ((limit_is_only_failure selfSum ∅ 2 (.rule "a")).2.2 _ ends_well).1
  rw [warns 1 (.inl rfl)] at failed
  rw [warns 2 (.inr rfl)] at answered
  exact ⟨fails, failed, answered⟩

end CarbonSurvey
