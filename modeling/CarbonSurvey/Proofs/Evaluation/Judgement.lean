import CarbonSurvey.Evaluation.Query

/-! # Plain evaluation

What a model says a name, a formula or a condition is worth when nobody keeps count: there is no
stack of goals, no depth limit and no warning, and a name that depends on itself is simply worth
nothing at all. The rules stand in one relation over judgements rather than in one relation for each
kind, so that an induction runs over all of them at once.
-/

namespace CarbonSurvey

namespace Proviso

/-- The text of a condition, unless it is malformed. -/
def source? : Proviso → Option String
  | .text source => some source
  | .malformed => none

/-- The text of a condition once its reference is completed with the name of its rule. -/
def completed? (owner : String) (proviso : Proviso) : Option String :=
  proviso.source?.map (DottedName.merge owner)

end Proviso

/-- What plain evaluation can find out. -/
inductive Judgement where
  /-- What the formula of a name is worth. -/
  | rule (name : String) (worth : Float)
  /-- What a formula of the rule `owner` is worth. -/
  | formula (owner : String) (body : Expression) (worth : Float)
  /-- What the first case that holds is worth. -/
  | choice (owner : String) (cases : Cases) (worth : Float)
  | branch (owner : String) (branch : Branch) (worth : Float)
  /-- What a sum comes to when `sum` is already there. -/
  | total (sum : Float) (references : List String) (worth : Float)
  | anyOf (provisos : List Proviso) (holds : Bool)
  | allOf (provisos : List Proviso) (holds : Bool)
  /-- Whether a condition holds. One without a text is malformed. -/
  | condition (text : Option String) (holds : Bool)
  /-- Whether the guard of a rule lets its default count. -/
  | guard (name : String) (rule : Rule) (holds : Bool)
  /-- What a reference is worth: its answer, or else its default. -/
  | value (reference : String) (worth : Float)
  /-- What a name is worth when its question has no answer. -/
  | default (name : String) (worth : Float)

/-- The judgements that a model and a situation bear out. -/
inductive Derives (model : Model) (situation : Situation) : Judgement → Prop where
  | ruleMissing {name} : model[name]? = none → Derives model situation (.rule name 0.0)
  | ruleConstant {name entry worth} : model[name]? = some entry → entry.constant? = some worth →
      Derives model situation (.rule name worth)
  | ruleExpression {name entry body worth} : model[name]? = some entry → entry.constant? = none →
      entry.expression? = some body → Derives model situation (.formula name body worth) →
      Derives model situation (.rule name worth)
  | ruleEmpty {name entry} : model[name]? = some entry → entry.constant? = none →
      entry.expression? = none → Derives model situation (.rule name 0.0)
  | variations {owner cases worth} : Derives model situation (.choice owner cases worth) →
      Derives model situation (.formula owner (.variations cases) worth)
  | averageNone {owner} : Derives model situation (.formula owner (.average []) 0.0)
  /-- Only the first reference counts. -/
  | averageFirst {owner reference rest worth} : Derives model situation (.value reference worth) →
      Derives model situation (.formula owner (.average (reference :: rest)) worth)
  | sum {owner references worth} : Derives model situation (.total 0.0 references worth) →
      Derives model situation (.formula owner (.sum references) worth)
  | anyOf {owner provisos holds} : Derives model situation (.anyOf provisos holds) →
      Derives model situation (.formula owner (.anyOf provisos) (Plan.ofTruth holds))
  | allOf {owner provisos holds} : Derives model situation (.allOf provisos holds) →
      Derives model situation (.formula owner (.allOf provisos) (Plan.ofTruth holds))
  | unsupported {owner} : Derives model situation (.formula owner .unsupported 0.0)
  | noCase {owner} : Derives model situation (.choice owner .done 0.0)
  | fallbackFormula {owner body worth} : Derives model situation (.formula owner body worth) →
      Derives model situation (.choice owner (.otherwise (.formula body)) worth)
  /-- A fallback that is no formula gives zero, whatever it says. -/
  | fallbackPlain {owner branch} : (∀ body, branch ≠ .formula body) →
      Derives model situation (.choice owner (.otherwise branch) 0.0)
  | caseTaken {owner premise branch rest worth} :
      Derives model situation (.condition (premise.completed? owner) true) →
      Derives model situation (.branch owner branch worth) →
      Derives model situation (.choice owner (.clause premise branch rest) worth)
  | caseSkipped {owner premise branch rest worth} :
      Derives model situation (.condition (premise.completed? owner) false) →
      Derives model situation (.choice owner rest worth) →
      Derives model situation (.choice owner (.clause premise branch rest) worth)
  | branchNumber {owner number} :
      Derives model situation (.branch owner (.number number) (if number.isNaN then 0.0 else number))
  | branchText {owner text} :
      Derives model situation (.branch owner (.text text) ((Decimal.coerce? text).getD 0.0))
  | branchFormula {owner body worth} : Derives model situation (.formula owner body worth) →
      Derives model situation (.branch owner (.formula body) worth)
  | totalDone {sum} : Derives model situation (.total sum [] sum)
  | totalNext {sum reference rest answer worth} : Derives model situation (.value reference answer) →
      Derives model situation (.total (sum + answer) rest worth) →
      Derives model situation (.total sum (reference :: rest) worth)
  | anyNone : Derives model situation (.anyOf [] false)
  | anyFirst {first rest} : Derives model situation (.condition first.source? true) →
      Derives model situation (.anyOf (first :: rest) true)
  | anyRest {first rest holds} : Derives model situation (.condition first.source? false) →
      Derives model situation (.anyOf rest holds) →
      Derives model situation (.anyOf (first :: rest) holds)
  | allNone : Derives model situation (.allOf [] true)
  | allFirst {first rest} : Derives model situation (.condition first.source? false) →
      Derives model situation (.allOf (first :: rest) false)
  | allRest {first rest holds} : Derives model situation (.condition first.source? true) →
      Derives model situation (.allOf rest holds) →
      Derives model situation (.allOf (first :: rest) holds)
  | malformed : Derives model situation (.condition none false)
  | unread {text} : Condition.parse? text = none → Derives model situation (.condition (some text) false)
  | bareYes {text reference} : Condition.parse? text = some ⟨reference, none⟩ →
      situation[reference]? = some (.text Condition.yes) →
      Derives model situation (.condition (some text) true)
  | bareNo {text reference} : Condition.parse? text = some ⟨reference, none⟩ →
      situation[reference]? ≠ some (.text Condition.yes) →
      Derives model situation (.condition (some text) false)
  /-- An answer in words is compared as text, even where it spells a number. -/
  | comparedText {text reference op literal answer} :
      Condition.parse? text = some ⟨reference, some (op, literal)⟩ →
      situation[reference]? = some (.text answer) →
      Derives model situation (.condition (some text) (op.holds (.text answer) literal))
  | comparedNumber {text reference op literal worth} :
      Condition.parse? text = some ⟨reference, some (op, literal)⟩ →
      (∀ answer, situation[reference]? ≠ some (.text answer)) →
      Derives model situation (.value reference worth) →
      Derives model situation (.condition (some text) (op.holds (.number worth) literal))
  | unguarded {name rule} : rule.applicableIf = none → Derives model situation (.guard name rule true)
  | guarded {name rule premise holds} : rule.applicableIf = some premise →
      Derives model situation (.condition (premise.completed? name) holds) →
      Derives model situation (.guard name rule holds)
  | valueBlank {reference} : DottedName.isValid reference = false →
      Derives model situation (.value reference 0.0)
  | valueAnswered {reference worth} : DottedName.isValid reference = true →
      situation.number? reference = some worth → Derives model situation (.value reference worth)
  | valueDefault {reference worth} : DottedName.isValid reference = true →
      situation.number? reference = none → Derives model situation (.default reference worth) →
      Derives model situation (.value reference worth)
  | defaultMissing {name} : model[name]? = none → Derives model situation (.default name 0.0)
  | defaultBare {name number} : model[name]? = some (.bare number) →
      Derives model situation (.default name (number.getD 0.0))
  | defaultRefused {name rule} : model[name]? = some (.rule rule) →
      Derives model situation (.guard name rule false) → Derives model situation (.default name 0.0)
  | defaultNumber {name rule number} : model[name]? = some (.rule rule) →
      Derives model situation (.guard name rule true) → rule.default = some (.number number) →
      Derives model situation (.default name number)
  | defaultReference {name rule reference worth} : model[name]? = some (.rule rule) →
      Derives model situation (.guard name rule true) → rule.default = some (.reference reference) →
      Derives model situation (.rule (DottedName.merge name reference) worth) →
      Derives model situation (.default name worth)
  | defaultFormula {name rule worth} : model[name]? = some (.rule rule) →
      Derives model situation (.guard name rule true) → rule.default = none →
      rule.formula.isSome → Derives model situation (.rule name worth) →
      Derives model situation (.default name worth)
  | defaultNone {name rule} : model[name]? = some (.rule rule) →
      Derives model situation (.guard name rule true) → rule.default = none →
      rule.formula = none → Derives model situation (.default name 0.0)

/-- What plain evaluation makes of a query. -/
def Query.Derivable (model : Model) (situation : Situation) : Query → Reading → Prop
  | .rule name, .number worth => Derives model situation (.rule name worth)
  | .value reference, .number worth => Derives model situation (.value reference worth)
  | .default name, .number worth => Derives model situation (.default name worth)
  | .condition text, .truth holds => Derives model situation (.condition (some text) holds)
  | _, _ => False

end CarbonSurvey
