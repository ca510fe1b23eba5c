/-! # Goals

Evaluating a name means pursuing goals: the formula of a name or its default. The goals that are
being pursued form a stack, innermost first. A goal that is already on the stack is a cycle.
-/

namespace CarbonSurvey

inductive Goal where
  | formula (name : String)
  | default (name : String)
  deriving Repr, DecidableEq

namespace Goal

def name : Goal → String
  | .formula name => name
  | .default name => name

def isFormula : Goal → Bool
  | .formula _ => true
  | .default _ => false

end Goal

/-- The goals being pursued, innermost first. -/
abbrev Stack := List Goal

namespace Stack

/-- How many formulas are open. Only they count against the depth limit. -/
def nesting (stack : Stack) : Nat :=
  stack.countP Goal.isFormula

/-- The names from the outermost goal of a name, whether formula or default, inwards and back to
    that name. -/
def cycle (stack : Stack) (name : String) : List String :=
  (stack.reverse.map Goal.name).dropWhile (· ≠ name) ++ [name]

end Stack

end CarbonSurvey
