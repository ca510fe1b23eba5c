import CarbonSurvey.Decimal.Layout

/-! # Formulas

What a rule computes. Formulas are understood once, when a model is read; a shape that means
nothing here becomes `Expression.unsupported` and is worth zero.
-/

namespace CarbonSurvey

/-- A condition as it stands in a rule. Where a model has something other than text there, the
    condition is malformed and never holds. -/
inductive Proviso where
  | text (source : String)
  | malformed
  deriving Repr, DecidableEq

mutual

/-- A formula that has to be evaluated. -/
inductive Expression where
  /-- The first case whose condition holds. -/
  | variations (cases : Cases)
  | average (references : List String)
  | sum (references : List String)
  | anyOf (provisos : List Proviso)
  | allOf (provisos : List Proviso)
  | unsupported
  deriving Repr, DecidableEq

/-- Clauses in their order, and at the end a fallback or none. -/
inductive Cases where
  | done
  | otherwise (branch : Branch)
  | clause (premise : Proviso) (branch : Branch) (rest : Cases)
  deriving Repr, DecidableEq

/-- What a case gives. -/
inductive Branch where
  | number (value : Float)
  | text (value : String)
  | formula (body : Expression)
  deriving Repr, DecidableEq

end

inductive Formula where
  | constant (value : Float)
  | expression (body : Expression)
  deriving Repr, DecidableEq

/-! ## How formulas are shown -/

def Proviso.shown : Proviso → String
  | .text source => source
  | .malformed => "<malformed>"

namespace Expression

/-- The word for a shape of formula. -/
def kind : Expression → String
  | .variations _ => "variations"
  | .average _ => "average"
  | .sum _ => "sum"
  | .anyOf _ => "any of"
  | .allOf _ => "all of"
  | .unsupported => "unsupported"

def bracketed (kind : String) (mark : String) (parts : List String) : String :=
  kind ++ " [" ++ mark.intercalate parts ++ "]"

end Expression

mutual

def Expression.shown : Expression → String
  | .variations cases => Expression.bracketed "variations" "; " cases.shown
  | .average references => Expression.bracketed "average" ", " references
  | .sum references => Expression.bracketed "sum" ", " references
  | .anyOf provisos => Expression.bracketed "any of" ", " (provisos.map Proviso.shown)
  | .allOf provisos => Expression.bracketed "all of" ", " (provisos.map Proviso.shown)
  | .unsupported => "unsupported"

/-- One text for each clause, and one for the fallback. -/
def Cases.shown : Cases → List String
  | .done => []
  | .otherwise branch => ["otherwise " ++ branch.shown]
  | .clause premise branch rest =>
    ("if " ++ premise.shown ++ " then " ++ branch.shown) :: rest.shown

def Branch.shown : Branch → String
  | .number value => Decimal.plain value
  | .text value => "'" ++ value ++ "'"
  | .formula body => "(" ++ body.shown ++ ")"

end

def Formula.shown : Formula → String
  | .constant value => Decimal.plain value
  | .expression body => body.shown

end CarbonSurvey
