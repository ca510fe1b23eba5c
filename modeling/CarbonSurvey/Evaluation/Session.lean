import CarbonSurvey.Evaluation.Query

/-! # Sessions

A session keeps one stack of goals and takes steps on it, one after another. A step may open a goal
by hand and take further steps inside it. Whatever happens in a step, an error included, the session
goes on with the stack it had.
-/

namespace CarbonSurvey

/-- A step of a session. Values that are only handed through are of any type. -/
inductive Step (α : Type) where
  | query (query : Query)
  /-- Evaluates the formula of `rule` as if it stood in the rule `owner`. -/
  | formula (owner rule : String)
  | fail (path : String)
  /-- Takes steps inside a goal, and then gives `value`; on a cycle it gives `onCycle` at once. -/
  | within (goal : Goal) (onCycle value : α) (steps : List (Step α))

/-- What a step gives. -/
inductive StepResult (α : Type) where
  | reading (reading : Reading)
  | given (value : α)
  | nothing

/-- What a session has on record. -/
inductive LogEntry (α : Type) where
  /-- A goal was opened by hand. -/
  | entered (goal : Goal) (stack : Stack)
  /-- A step came to its end. -/
  | finished (step : Step α) (stack : Stack) (outcome : Outcome (StepResult α))

/-- The state of a session after some steps, what they put on record, and the error that ended them
    if one did. -/
structure Session (α : Type) where
  stack : Stack
  log : List (LogEntry α)
  error : Option Error

namespace Session

variable {α : Type}

def start (stack : Stack) : Session α :=
  ⟨stack, [], none⟩

/-- Ends a step with its outcome. -/
def finish (step : Step α) (session : Session α) (outcome : Outcome (StepResult α)) : Session α where
  stack := session.stack
  log := session.log ++ [.finished step session.stack outcome]
  error :=
    match outcome.result with
    | .ok _ => none
    | .error error => some error

/-- Opens a goal. -/
def enter (goal : Goal) (stack : Stack) : Session α where
  stack := goal :: stack
  log := [.entered goal (goal :: stack)]
  error := none

/-- Closes the innermost goal. -/
def leave (session : Session α) : Session α :=
  { session with stack := session.stack.drop 1 }

/-- What comes of the steps inside a goal. -/
def outcome (session : Session α) (value : α) : Outcome (StepResult α) :=
  match session.error with
  | some error => .fail error
  | none => .ok (.given value)

/-- What comes of a formula that stands in for another rule's. -/
def formulaOutcome (setting : Setting) (stack : Stack) (owner rule : String) :
    Outcome (StepResult α) :=
  match setting.model[rule]?.bind Entry.expression? with
  | none => .ok .nothing
  | some body =>
    (setting.run stack (Plan.expression setting.situation owner body)).bind fun value =>
      .ok (.reading (.number value))

mutual

/-- Takes one step. -/
def take (setting : Setting) (stack : Stack) (step : Step α) : Session α :=
  match step with
  | .query query =>
    finish (.query query) (start stack)
      ((setting.query stack query).bind fun reading => .ok (.reading reading))
  | .formula owner rule =>
    finish (.formula owner rule) (start stack) (formulaOutcome setting stack owner rule)
  | .fail path => finish (.fail path) (start stack) (.fail (.circularReference path))
  | .within goal onCycle value steps =>
    if goal ∈ stack then
      finish (.within goal onCycle value steps) (start stack)
        (.warn ⟨goal.name, stack.cycle goal.name⟩ (.given onCycle))
    else if goal.isFormula ∧ setting.maxDepth ≤ stack.nesting then
      finish (.within goal onCycle value steps) (start stack)
        (.fail (.tooDeep goal.name setting.maxDepth (stack.nesting + 1)))
    else
      let inside := takeUntilError setting (enter goal stack) steps
      finish (.within goal onCycle value steps) inside.leave (inside.outcome value)

/-- Takes steps until one of them ends in an error. -/
def takeUntilError (setting : Setting) (session : Session α) (steps : List (Step α)) : Session α :=
  match steps with
  | [] => session
  | step :: rest =>
    let next := take setting session.stack step
    let session := { next with log := session.log ++ next.log }
    if session.error.isSome then session else takeUntilError setting session rest

end

/-- Takes all steps, errors or not, and gives what they put on record. -/
def takeAll (setting : Setting) (stack : Stack) : List (Step α) → List (LogEntry α)
  | [] => []
  | step :: rest =>
    let session := take setting stack step
    session.log ++ takeAll setting session.stack rest

end Session

end CarbonSurvey
