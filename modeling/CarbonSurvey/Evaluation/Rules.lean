import CarbonSurvey.Condition
import CarbonSurvey.DottedName
import CarbonSurvey.Model
import CarbonSurvey.Situation
import CarbonSurvey.Evaluation.Plan

/-! # What rules mean

The plans of references, conditions, formulas and goals. An answer comes before a default, a guard
before what it guards, and the first case that holds before the others.
-/

namespace CarbonSurvey.Plan

/-- The value of a reference: the number the participant answered, or else its default. -/
def value (situation : Situation) (reference : String) : Plan Float :=
  if DottedName.isValid reference then
    match situation.number? reference with
    | some answer => .done answer
    | none => ofGoal (.default reference)
  else
    .done 0.0

/-- A comparison of a reference. An answer in words is compared as text, even where it spells a
    number. -/
def comparison (situation : Situation) (reference : String) (op : Operator) (literal : Operand) :
    Plan Bool :=
  match situation[reference]? with
  | some (.text answer) => .done (op.holds (.text answer) literal)
  | _ => (value situation reference).map fun left => op.holds (.number left) literal

/-- Whether a condition holds. A text that spells no condition does not. -/
def condition (situation : Situation) (text : String) : Plan Bool :=
  match Condition.parse? text with
  | none => .done false
  | some ⟨reference, none⟩ => .done (situation[reference]? = some (.text Condition.yes))
  | some ⟨reference, some (op, literal)⟩ => comparison situation reference op literal

/-- Whether a condition in a rule holds as it stands. -/
def proviso (situation : Situation) : Proviso → Plan Bool
  | .text source => condition situation source
  | .malformed => .done false

/-- Whether a condition in a rule holds once its reference is completed with the rule's name. -/
def completed (situation : Situation) (owner : String) : Proviso → Plan Bool
  | .text source => condition situation (DottedName.merge owner source)
  | .malformed => .done false

/-- A total with the references still to be added, from the left. -/
def total (situation : Situation) (sum : Float) : List String → Plan Float
  | [] => .done sum
  | reference :: rest =>
    (value situation reference).bind fun answer => total situation (sum + answer) rest

def anyOf (situation : Situation) : List Proviso → Plan Bool
  | [] => .done false
  | first :: rest =>
    (proviso situation first).bind fun holds => if holds then .done true else anyOf situation rest

def allOf (situation : Situation) : List Proviso → Plan Bool
  | [] => .done true
  | first :: rest =>
    (proviso situation first).bind fun holds => if holds then allOf situation rest else .done false

/-- Truth as a number. -/
def ofTruth (holds : Bool) : Float :=
  if holds then 1.0 else 0.0

/-- What a branch is worth by itself. -/
def plain : Branch → Plan Float
  | .number number => .done (if number.isNaN then 0.0 else number)
  | .text text => .done ((Decimal.coerce? text).getD 0.0)
  | .formula _ => .done 0.0

mutual

/-- The value of a formula of the rule `owner`. -/
def expression (situation : Situation) (owner : String) : Expression → Plan Float
  | .variations cases => choose situation owner cases
  | .average [] => .done 0.0
  | .average (reference :: _) => value situation reference
  | .sum references => total situation 0.0 references
  | .anyOf provisos => (anyOf situation provisos).map ofTruth
  | .allOf provisos => (allOf situation provisos).map ofTruth
  | .unsupported => .done 0.0

/-- The first case that holds. A fallback that is no formula gives zero, not its own value. -/
def choose (situation : Situation) (owner : String) : Cases → Plan Float
  | .done => .done 0.0
  | .otherwise fallback => nested situation owner (.done 0.0) fallback
  | .clause premise branch rest =>
    (completed situation owner premise).bind fun holds =>
      if holds then nested situation owner (plain branch) branch else choose situation owner rest

/-- The formula of a branch, or another plan where the branch is no formula. -/
def nested (situation : Situation) (owner : String) (otherwise : Plan Float) : Branch → Plan Float
  | .formula body => expression situation owner body
  | _ => otherwise

end

/-- The formula goal of a name. -/
def formula (model : Model) (situation : Situation) (name : String) : Plan Float :=
  match model[name]? with
  | none => .done 0.0
  | some entry =>
    match entry.constant? with
    | some constant => .done constant
    | none =>
      match entry.expression? with
      | some body => expression situation name body
      | none => .done 0.0

/-- What a rule says about its default. A rule that is computed is worth its formula. -/
def ruleDefault (name : String) (rule : Rule) : Plan Float :=
  match rule.default with
  | some (.number number) => .done number
  | some (.reference reference) => ofGoal (.formula (DottedName.merge name reference))
  | none => if rule.formula.isSome then ofGoal (.formula name) else .done 0.0

def guard (situation : Situation) (name : String) (rule : Rule) : Plan Bool :=
  match rule.applicableIf with
  | some premise => completed situation name premise
  | none => .done true

/-- The default goal of a name. -/
def default (model : Model) (situation : Situation) (name : String) : Plan Float :=
  match model[name]? with
  | none => .done 0.0
  | some (.bare number) => .done (number.getD 0.0)
  | some (.rule rule) =>
    (guard situation name rule).bind fun applies =>
      if applies then ruleDefault name rule else .done 0.0

/-- How a goal is reached. -/
def goal (model : Model) (situation : Situation) : Goal → Plan Float
  | .formula name => formula model situation name
  | .default name => default model situation name

end CarbonSurvey.Plan
