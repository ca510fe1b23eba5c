import CarbonSurvey.Text.Blank
import CarbonSurvey.Decimal.Numeral

/-! # Conditions

A condition is a name alone, which asks whether the participant answered `oui`, or a name compared
with a literal. `Condition.parse?` reads one from text: the first operator divides it, and a second
operator ends the literal.
-/

namespace CarbonSurvey

/-- The comparisons a condition can make. -/
inductive Operator where
  | less
  | greater
  | equal
  deriving Repr, DecidableEq

/-- What stands on either side of a comparison. -/
inductive Operand where
  | number (value : Float)
  | text (value : String)
  deriving Repr, DecidableEq

/-- A condition that has been understood. -/
structure Condition where
  reference : String
  comparison : Option (Operator × Operand)
  deriving Repr, DecidableEq

namespace Operator

def token : Operator → Char
  | .less => '<'
  | .greater => '>'
  | .equal => '='

def ofChar? : Char → Option Operator
  | '<' => some .less
  | '>' => some .greater
  | '=' => some .equal
  | _ => none

/-- The operator that a whole text spells. -/
def ofToken? (text : String) : Option Operator :=
  match text.toList with
  | [c] => ofChar? c
  | _ => none

@[simp]
theorem ofChar?_token (op : Operator) : ofChar? op.token = some op := by
  cases op <;> rfl

/-- Numbers compare in every way. Texts only agree or differ, and a number never matches a text. -/
def holds (op : Operator) : Operand → Operand → Bool
  | .number left, .number right =>
    match op with
    | .less => left < right
    | .greater => right < left
    | .equal => left == right
  | .text left, .text right => op = .equal && left == right
  | _, _ => false

end Operator

/-- A literal is a number if it reads as a finite one, and a text otherwise. -/
def Operand.ofLiteral (literal : List Char) : Operand :=
  match Decimal.finite? literal with
  | some value => .number value
  | none => .text (.ofList literal)

namespace Condition

open Text

/-- The answer that makes a bare reference true. -/
def yes : String := "oui"

def isPlain (c : Char) : Bool :=
  (Operator.ofChar? c).isNone

/-- Both sides of a comparison must be there. -/
def compared? (reference : List Char) (op : Operator) (literal : List Char) : Option Condition :=
  if reference = [] ∨ literal = [] then
    none
  else
    some ⟨.ofList reference, some (op, .ofLiteral literal)⟩

def parseChars? (text : List Char) : Option Condition :=
  let before := text.takeWhile isPlain
  match text.dropWhile isPlain with
  | [] => if before = [] then none else some ⟨.ofList before, none⟩
  | mark :: rest =>
    (Operator.ofChar? mark).bind fun op =>
      compared? (trim before) op (trim (rest.takeWhile isPlain))

/-- The condition that a text spells, or nothing where it spells none. -/
def parse? (text : String) : Option Condition :=
  parseChars? (trim text.toList)

end Condition

end CarbonSurvey
