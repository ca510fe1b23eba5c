import CarbonSurvey.Evaluation.Session
import CarbonSurvey.Proofs.Evaluation.CutOff
import CarbonSurvey.Proofs.Evaluation.Threading

/-! # Sessions leave the stack as they found it

A session keeps its own stack, which a step that opens a goal has to close again. Each step is a program on
that stack and comes to the same (`Session.outcome_program`), so that what is known of programs, with what is
known of the stack itself (`Session.stack_take`), says that no step can tell which steps came before it.
-/

namespace CarbonSurvey

mutual

/-- A step of a session as a part of a program. -/
def Step.program {α β : Type} (setting : Setting) (next : Except Error (StepResult α) → Program β) :
    Step α → Program β
  | .query question =>
      (question.plan setting.situation).program fun result => next (result.map .reading)
  | .formula owner rule =>
      match setting.model[rule]?.bind Entry.expression? with
      | none => next (.ok .nothing)
      | some body =>
          (Plan.expression setting.situation owner body).program fun result =>
            next (result.map fun value => .reading (.number value))
  | .fail path => next (.error (.circularReference path))
  | .within goal onCycle value steps => .within goal (.given onCycle) (Step.programs setting value steps) next

/-- The steps inside a goal, of which an error is the last. -/
def Step.programs {α : Type} (setting : Setting) (value : α) : List (Step α) → Program (StepResult α)
  | [] => .give (.ok (.given value))
  | step :: rest =>
      step.program setting fun
        | .ok _ => Step.programs setting value rest
        | .error error => .give (.error error)

end

/-- The warnings that came with a record. -/
def LogEntry.warnings {α : Type} : LogEntry α → List Warning
  | .entered _ _ => []
  | .finished _ _ outcome => outcome.warnings

namespace Session

variable {α : Type} {setting : Setting} {stack : Stack}

/-- The warnings of a session so far. -/
def warnings (session : Session α) : List Warning :=
  session.log.flatMap LogEntry.warnings

/-- What a session comes to, by its record: all warnings, and what its last step gave. -/
def summary (session : Session α) : Outcome (StepResult α) where
  warnings := session.warnings
  result :=
    match session.log.getLast? with
    | some (.finished _ _ outcome) => outcome.result
    | _ => .ok .nothing

theorem summary_finish {step : Step α} {session : Session α} {outcome : Outcome (StepResult α)} :
    (finish step session outcome).summary = ⟨session.warnings ++ outcome.warnings, outcome.result⟩ := by
  simp [summary, warnings, finish, LogEntry.warnings]

@[simp]
theorem warnings_start : (start stack : Session α).warnings = [] := rfl

theorem warnings_leave {session : Session α} : session.leave.warnings = session.warnings := rfl

theorem warnings_outcome {session : Session α} {value : α} : (session.outcome value).warnings = [] := by
  rw [outcome]
  split <;> rfl

theorem summary_finish_start {step : Step α} {outcome : Outcome (StepResult α)} :
    (finish step (start stack) outcome).summary = outcome := by
  simp [summary_finish]

/-- What comes of the steps inside a goal, with all their warnings. -/
def close (session : Session α) (value : α) : Outcome (StepResult α) :=
  ⟨session.warnings, (session.outcome value).result⟩

/-- A session with one more step. -/
def extend (setting : Setting) (session : Session α) (step : Step α) : Session α :=
  { take setting session.stack step with log := session.log ++ (take setting session.stack step).log }

theorem takeUntilError_cons {session : Session α} {step : Step α} {rest : List (Step α)} :
    takeUntilError setting session (step :: rest) =
      if (session.extend setting step).error.isSome then session.extend setting step
      else takeUntilError setting (session.extend setting step) rest := by
  rw [takeUntilError]
  rfl

mutual

theorem stack_take (step : Step α) {stack : Stack} : (take setting stack step).stack = stack := by
  match step with
  | .query _ | .formula _ _ | .fail _ => rfl
  | .within goal onCycle value steps =>
      rw [take]
      split
      · rfl
      · split
        · rfl
        · exact congrArg (List.drop 1) (stack_takeUntilError steps)
termination_by structural step

theorem stack_takeUntilError (steps : List (Step α)) {session : Session α} :
    (takeUntilError setting session steps).stack = session.stack := by
  match steps with
  | [] => rfl
  | step :: rest =>
      rw [takeUntilError_cons]
      split
      · exact stack_take step
      · exact (stack_takeUntilError rest).trans (stack_take step)
termination_by structural steps

end

/-- The record of a step ends with the step itself. -/
theorem exists_finish (step : Step α) :
    ∃ session outcome, take setting stack step = finish step session outcome := by
  cases step with
  | query question => exact ⟨_, _, rfl⟩
  | formula owner rule => exact ⟨_, _, rfl⟩
  | fail path => exact ⟨_, _, rfl⟩
  | within goal onCycle value steps =>
      rw [take]
      split
      · exact ⟨_, _, rfl⟩
      · split <;> exact ⟨_, _, rfl⟩

theorem stack_extend {session : Session α} {step : Step α} :
    (session.extend setting step).stack = session.stack :=
  stack_take step

/-- A step ends in an error just when its own outcome is one. -/
theorem error_extend {session : Session α} {step : Step α} :
    (session.extend setting step).error =
      match (take setting session.stack step).summary.result with
      | .ok _ => none
      | .error error => some error := by
  obtain ⟨inside, outcome, h⟩ := @exists_finish α setting session.stack step
  rw [extend, h, summary_finish]
  rfl

theorem close_enter_before {goal : Goal} {value : α} {outcome : Outcome (StepResult α)} :
    ((enter goal stack).close value).before outcome = outcome := rfl

/-- Steps are taken inside a goal as a program works inside it. -/
theorem summary_within {goal : Goal} {onCycle value : α} {steps : List (Step α)} :
    (take setting stack (.within goal onCycle value steps)).summary =
      setting.within stack goal (.given onCycle) ((takeUntilError setting (enter goal stack) steps).close value) := by
  rw [take, Setting.within]
  split
  · rw [summary_finish_start]
  · split
    · rw [summary_finish_start]
    · rw [summary_finish, warnings_leave, warnings_outcome, List.append_nil]
      rfl

/-- A step that is taken inside a goal adds its warnings, and ends the work there if it fails. -/
theorem close_extend {session : Session α} {step : Step α} {value : α} :
    (session.extend setting step).close value =
      ⟨session.warnings ++ (take setting session.stack step).summary.warnings,
        (take setting session.stack step).summary.result.map fun _ => .given value⟩ := by
  have hwarnings : (session.extend setting step).warnings =
      session.warnings ++ (take setting session.stack step).summary.warnings := by
    simp only [warnings, extend, summary, List.flatMap_append]
  rw [close, hwarnings, outcome, error_extend]
  cases (take setting session.stack step).summary.result <;> rfl

mutual

/-- A step of a session comes to what its program comes to. -/
theorem outcome_program {β : Type} (step : Step α) {stack : Stack}
    {next : Except Error (StepResult α) → Program β} :
    (step.program setting next).outcome setting stack =
      (take setting stack step).summary.andThen fun result => (next result).outcome setting stack := by
  match step with
  | .query question =>
      rw [Step.program, Program.outcome_program, take, summary_finish_start, Outcome.bind_ok_andThen]
      rfl
  | .formula owner rule =>
      rw [Step.program, take, summary_finish_start, formulaOutcome]
      cases setting.model[rule]?.bind Entry.expression? with
      | none => rfl
      | some body => rw [Program.outcome_program, Outcome.bind_ok_andThen]
  | .fail path => rw [Step.program, take, summary_finish_start, Outcome.fail_andThen]
  | .within goal onCycle value steps =>
      rw [Step.program, Program.outcome, summary_within, close_takeUntilError steps rfl, close_enter_before]
      rfl
termination_by structural step

/-- The steps inside a goal come to what their program comes to, after what the session already holds. -/
theorem close_takeUntilError {value : α} (steps : List (Step α)) {session : Session α} (h : session.error = none) :
    (takeUntilError setting session steps).close value =
      (session.close value).before ((Step.programs setting value steps).outcome setting session.stack) := by
  match steps with
  | [] =>
      rw [takeUntilError, Step.programs, Program.outcome, close, outcome, h]
      simp [Outcome.before, Outcome.ok]
  | step :: rest =>
      have herror := @error_extend α setting session step
      -- both go on with the rest if the step has a value, and stop with its error otherwise
      rw [takeUntilError_cons, Step.programs, outcome_program step]
      cases hresult : (take setting session.stack step).summary.result with
      | error error =>
          rw [hresult] at herror
          rw [if_pos (by simp [herror]), close_extend, hresult]
          simp [close, Outcome.andThen, Outcome.before, hresult, Except.map, Program.outcome]
      | ok given =>
          rw [hresult] at herror
          rw [if_neg (by simp [herror]), close_takeUntilError rest herror, close_extend, hresult, stack_extend]
          simp [close, Outcome.andThen, Outcome.before, hresult]
termination_by structural steps

end

theorem takeAll_eq_flatMap (steps : List (Step α)) :
    takeAll setting stack steps = steps.flatMap fun step => (take setting stack step).log := by
  induction steps with
  | nil => rfl
  | cons step rest ih => rw [takeAll, stack_take, ih, List.flatMap_cons]

end Session

/-- Whatever is done on a stack leaves it as it was found, whether it ends well or not. A program whose steps
    hand on the stack comes to what it comes to at its place, and so does an evaluation. When programs work on
    the same stack, each of them comes to what it would come to alone. A session step leaves its stack, and
    comes to what its program comes to; and what a session has on record of each of its steps is what it has on
    record of that step alone. -/
theorem stack_left_as_found {α : Type} (setting : Setting) (stack : Stack) :
    (∀ (program : Program α) outcome after, setting.Threads stack program outcome after ↔
      outcome = program.outcome setting stack ∧ after = stack) ∧
    (∀ (plan : Plan α) outcome after, setting.Threads stack (plan.program .give) outcome after ↔
      outcome = setting.run stack plan ∧ after = stack) ∧
    (∀ (programs : List (Program α)) outcomes after, setting.ThreadsAll stack programs outcomes after ↔
      List.Forall₂ (fun program outcome => setting.Threads stack program outcome stack) programs outcomes ∧
        after = stack) ∧
    (∀ step : Step α, (Session.take setting stack step).stack = stack ∧
      setting.Threads stack (step.program setting .give) (Session.take setting stack step).summary stack) ∧
    ∀ steps : List (Step α), Session.takeAll setting stack steps =
      steps.flatMap fun step => (Session.take setting stack step).log := by
  refine ⟨fun program outcome after => Setting.threads_iff, fun plan outcome after => Setting.threads_program_iff,
    fun programs outcomes after => Setting.threadsAll_iff, fun step => ⟨Session.stack_take step, ?_⟩,
    Session.takeAll_eq_flatMap⟩
  refine Setting.threads_iff.2 ⟨?_, rfl⟩
  rw [Session.outcome_program]
  exact (Outcome.andThen_give _).symm

/-- Inside a formula the sum is too deep at once. That error closes the formula again: afterwards the sum comes
    as far as it does in a fresh session. -/
theorem selfSum_session :
    (Session.take ⟨selfSum, ∅, 1⟩ [] (.within (.formula "b") () () [.query (.rule "a")])).error =
      some (.tooDeep "a" 1 2) ∧
    (Session.take ⟨selfSum, ∅, 1⟩ [] (.query (.rule "a") : Step Unit)).error = some (.tooDeep "c" 1 2) ∧
    Session.takeAll ⟨selfSum, ∅, 1⟩ [] [.within (.formula "b") () () [.query (.rule "a")], .query (.rule "a")] =
      (Session.take ⟨selfSum, ∅, 1⟩ [] (.within (.formula "b") () () [.query (.rule "a")])).log ++
        (Session.take ⟨selfSum, ∅, 1⟩ [] (.query (.rule "a"))).log := by
  refine ⟨by decide +kernel, by decide +kernel, ?_⟩
  rw [(stack_left_as_found ⟨selfSum, ∅, 1⟩ []).2.2.2.2]
  rfl

end CarbonSurvey
