import CarbonSurvey.Document.Situation
import CarbonSurvey.Evaluation.Outcome

/-! # Events

What is worth putting on record: a model was read, a cycle was cut, an evaluation failed.
-/

namespace CarbonSurvey

inductive Event where
  | loaded (source : String) (rules : Nat)
  | cycle (warning : Warning)
  | failure (subject : String) (situation : Situation) (error : Error)

namespace Event

def level : Event → String
  | .loaded .. => "DEBUG"
  | .cycle _ => "WARN"
  | .failure .. => "ERROR"

def message : Event → String
  | .loaded .. => "loaded rule registry"
  | .cycle _ => "reference cycle, using fallback"
  | .failure .. => "evaluation failed"

/-- The particulars of an event, each with its name. -/
def fields : Event → List (String × String)
  | .loaded source rules => [("source", source), ("rules", toString rules)]
  | .cycle warning => [("dotted_name", warning.name), ("error", warning.error.message)]
  | .failure subject situation error =>
    [("dotted_name", subject), ("situation", situation.write), ("error", error.message)]

end Event

end CarbonSurvey
