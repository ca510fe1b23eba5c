import CarbonSurvey.NameTable
import CarbonSurvey.Decimal.Coercion
import CarbonSurvey.Decimal.Layout

/-! # Situations

A situation holds what one participant answered. A question may be there without an answer.
-/

namespace CarbonSurvey

inductive Answer where
  | number (value : Float)
  | text (value : String)
  | unanswered
  deriving Repr, DecidableEq

namespace Answer

/-- The finite number an answer stands for, if there is one. -/
def number? : Answer → Option Float
  | .number value => if value.isFinite then some value else none
  | .text value => Decimal.coerce? value
  | .unanswered => none

def text? : Answer → Option String
  | .text value => some value
  | _ => none

def isUnanswered (answer : Answer) : Bool :=
  answer = .unanswered

def shown : Answer → String
  | .number value => Decimal.plain value
  | .text value => value
  | .unanswered => "?"

/-- Answers agree when they say the same. Numbers are compared as numbers, so that both zeros agree
    and a value that is not a number agrees with nothing. -/
def agrees : Answer → Answer → Bool
  | .number left, .number right => left == right
  | .text left, .text right => left == right
  | .unanswered, .unanswered => true
  | _, _ => false

end Answer

abbrev Situation := NameTable Answer

namespace Situation

/-- Situations agree when they have the same questions with answers that agree. -/
def agrees (left right : Situation) : Bool :=
  left.size == right.size &&
    left.toList.all fun (name, answer) => right[name]?.any answer.agrees

/-- The number that answers a question, if one does. -/
def number? (situation : Situation) (name : String) : Option Float :=
  situation[name]?.bind Answer.number?

end Situation

end CarbonSurvey
