import CarbonSurvey.Json.Number
import CarbonSurvey.Json.Collection

/-! # Reading values

Any JSON value, with a limit on how deep lists and objects may nest, and the readers that insist on
a value of one kind.
-/

namespace CarbonSurvey.Json.Reader

/-- How many lists and objects may be open at once. -/
def maxNesting : Nat := 127

/-- A value that is neither a list nor an object. -/
def scalar : Reader Json :=
  fun rest =>
    match rest with
    | [] => failNext .endInValue []
    | c :: after =>
      if c = 'n' then
        (word ['u', 'l', 'l'] >>= fun _ => pure Json.null) after
      else if c = 't' then
        (word ['r', 'u', 'e'] >>= fun _ => pure (Json.bool true)) after
      else if c = 'f' then
        (word ['a', 'l', 's', 'e'] >>= fun _ => pure (Json.bool false)) after
      else if c = '-' ∨ c.isDigit then
        (Json.number <$> number) rest
      else if c = '"' then
        (Json.text <$> quoted) after
      else
        failNext .expectedValue rest

/-- A list or an object, whose bracket has been looked at. -/
def compound (value : Reader Json) : Reader Json := do
  match ← upcoming with
  | some '[' =>
    advance
    Json.list <$> list value
  | _ =>
    advance
    Json.object <$> object value

/-- Any value, where `deeper` reads one that starts with a bracket. -/
def valueOr (deeper : Reader Json) : Reader Json := do
  match ← upcoming with
  | some '[' => deeper
  | some '\x7b' => deeper
  | _ => scalar

/-- Any value, with room for so many brackets. -/
def value : Nat → Reader Json
  | 0 => valueOr (failNext .nestedTooDeep)
  | room + 1 => valueOr (compound (value room))

/-- Refuses the next value, which is not what was wanted. A value without parts is read before it is
    refused, and a list or an object is refused at its bracket. -/
def wrongKind {α : Type} (expected : String) : Reader α := do
  match ← upcoming with
  | some '[' => failHere (.wrongType .list expected)
  | some '\x7b' => failHere (.wrongType .object expected)
  | _ =>
    let found ← scalar
    failHere (.wrongType (.ofJson found) expected)

/-- A text and nothing else. -/
def text : Reader String := do
  match ← upcoming with
  | some '"' =>
    advance
    quoted
  | _ => wrongKind "a string"

/-- Null and nothing else. -/
def unit : Reader Unit := do
  match ← upcoming with
  | some 'n' =>
    advance
    word ['u', 'l', 'l']
  | _ => wrongKind "unit"

/-- An object whose members are all read by one reader. -/
def objectOf {α : Type} (member : Reader α) : Reader (List (String × α)) := do
  match ← upcoming with
  | some '\x7b' =>
    advance
    object member
  | _ => wrongKind "a map"

/-- A list whose items are all read by one reader. -/
def listOf {α : Type} (item : Reader α) : Reader (List α) := do
  match ← upcoming with
  | some '[' =>
    advance
    list item
  | _ => wrongKind "a sequence"

end CarbonSurvey.Json.Reader
