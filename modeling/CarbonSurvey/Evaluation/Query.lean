import CarbonSurvey.Evaluation.Event
import CarbonSurvey.Evaluation.Resolution

/-! # Queries

The questions that can be put to a model and a situation. A query never fails: where its evaluation
does, the answer is zero or false, and the failure is put on record after the warnings.
-/

namespace CarbonSurvey

inductive Query where
  /-- The value of a name's formula. -/
  | rule (name : String)
  /-- The value of a reference: its answer, or else its default. -/
  | value (reference : String)
  /-- The default of a name, whatever the participant answered. -/
  | default (name : String)
  | condition (text : String)
  deriving Repr, DecidableEq

/-- What a query finds out. -/
inductive Reading where
  | number (value : Float)
  | truth (holds : Bool)
  deriving Repr, DecidableEq

namespace Query

/-- The text a query is about. -/
def subject : Query → String
  | .rule name => name
  | .value reference => reference
  | .default name => name
  | .condition text => text

/-- The answer to a query whose evaluation failed. -/
def fallback : Query → Reading
  | .condition _ => .truth false
  | _ => .number 0.0

def plan (situation : Situation) : Query → Plan Reading
  | .rule name => (Plan.ofGoal (.formula name)).map .number
  | .value reference => (Plan.value situation reference).map .number
  | .default name => (Plan.ofGoal (.default name)).map .number
  | .condition text => (Plan.condition situation text).map .truth

end Query

/-- The answer to a query, and what happened on the way. -/
structure Reply where
  reading : Reading
  events : List Event

namespace Setting

/-- Runs a plan while the goals of a stack are being pursued. -/
def run {α : Type} (setting : Setting) (stack : Stack) (plan : Plan α) : Outcome α :=
  plan.run (setting.pursue stack)

/-- What comes of a query while the goals of a stack are being pursued. -/
def query (setting : Setting) (stack : Stack) (query : Query) : Outcome Reading :=
  setting.run stack (query.plan setting.situation)

def answer (setting : Setting) (query : Query) : Reply :=
  let outcome := setting.query [] query
  let warnings := outcome.warnings.map Event.cycle
  match outcome.result with
  | .ok reading => ⟨reading, warnings⟩
  | .error error =>
    ⟨query.fallback, warnings ++ [.failure query.subject setting.situation error]⟩

theorem answer_of_ok {setting : Setting} {query : Query} {reading : Reading}
    (h : (setting.query [] query).result = .ok reading) :
    setting.answer query = ⟨reading, (setting.query [] query).warnings.map .cycle⟩ := by
  simp only [answer, h]

theorem answer_of_error {setting : Setting} {query : Query} {error : Error}
    (h : (setting.query [] query).result = .error error) :
    setting.answer query = ⟨query.fallback,
      (setting.query [] query).warnings.map .cycle ++ [.failure query.subject setting.situation error]⟩ := by
  simp only [answer, h]

/-- The value of a name's formula. -/
def evaluate (setting : Setting) (name : String) : Float :=
  match (setting.answer (.rule name)).reading with
  | .number value => value
  | .truth _ => 0.0

theorem evaluate_of_error {setting : Setting} {name : String} {error : Error}
    (h : (setting.query [] (.rule name)).result = .error error) : setting.evaluate name = 0.0 := by
  rw [evaluate, answer_of_error h]
  rfl

end Setting

end CarbonSurvey
