import CarbonSurvey.NameTable
import CarbonSurvey.Formula

/-! # Models

A model gives each dotted name an entry. Most entries are rules; some are bare numbers, and an
entry that is neither carries no value at all.
-/

namespace CarbonSurvey

/-- What a rule is worth when its question has no answer. -/
inductive Default where
  | number (value : Float)
  | reference (name : String)
  deriving Repr, DecidableEq

def Default.shown : Default → String
  | .number value => Decimal.plain value
  | .reference name => name

structure Rule where
  /-- The guard of the default: where it does not hold, the default is zero. -/
  applicableIf : Option Proviso
  default : Option Default
  formula : Option Formula
  deriving Repr, DecidableEq

inductive Entry where
  | rule (definition : Rule)
  | bare (value : Option Float)
  deriving Repr, DecidableEq

namespace Entry

def rule? : Entry → Option Rule
  | .rule definition => some definition
  | .bare _ => none

/-- The expression of a rule that has one. -/
def expression? : Entry → Option Expression
  | .rule ⟨_, _, some (.expression body)⟩ => some body
  | _ => none

/-- The value of an entry that nothing can change. -/
def constant? : Entry → Option Float
  | .bare value => value
  | .rule ⟨_, _, some (.constant value)⟩ => some value
  | .rule _ => none

end Entry

abbrev Model := NameTable Entry

namespace Model

def rule? (model : Model) (name : String) : Option Rule :=
  model[name]?.bind Entry.rule?

def names (model : Model) : List String :=
  model.toList.map Prod.fst

end Model

end CarbonSurvey
