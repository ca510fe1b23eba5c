import CarbonSurvey.Json.Text

/-! # Reading lists and objects

Lists and objects whose items are read by any other reader. The end of either is a reader of its
own, because it also settles where a pending fault stands.
-/

namespace CarbonSurvey.Json.Reader

/-- The end of a list whose items are all read. -/
def listEnd : Reader Unit := do
  match ← upcoming with
  | some ']' => advance
  | some ',' =>
    advance
    match ← upcoming with
    | some ']' => failNext .trailingComma
    | _ => failNext .trailingCharacters
  | some _ => failNext .trailingCharacters
  | none => failNext .endInList

/-- The end of an object whose members are all read. -/
def objectEnd : Reader Unit := do
  match ← upcoming with
  | some '\x7d' => advance
  | some ',' => failNext .trailingComma
  | some _ => failNext .trailingCharacters
  | none => failNext .endInObject

/-- Goes to the next item of a list, unless the list ends here. -/
def nextItem (first : Bool) : Reader Bool := do
  match ← upcoming with
  | none => failNext .endInList
  | some ']' => return false
  | some c =>
    if first then return true
    else if c = ',' then
      advance
      match ← upcoming with
      | some ']' => failNext .trailingComma
      | some _ => return true
      | none => failNext .endInValue
    else failNext .expectedListCommaOrEnd

/-- Goes to the next key of an object and takes its opening quote, unless the object ends here. -/
def nextKey (first : Bool) : Reader Bool := do
  match ← upcoming with
  | none => failNext .endInObject
  | some '\x7d' => return false
  | some c =>
    if first then
      if c = '"' then
        advance
        return true
      else failNext .keyMustBeText
    else if c = ',' then
      advance
      match ← upcoming with
      | some '"' =>
        advance
        return true
      | some '\x7d' => failNext .trailingComma
      | some _ => failNext .keyMustBeText
      | none => failNext .endInValue
    else failNext .expectedObjectCommaOrEnd

/-- Reads the inside of a list or object and then its end. A fault that is still pending comes to
    stand after the end, as far as the end is there. -/
def enclosed {α : Type} (finish : Reader Unit) (inside : Reader α) : Reader α :=
  fun rest =>
    match inside rest with
    | .ok (value, rest) =>
      match finish rest with
      | .ok (_, rest) => .ok (value, rest)
      | .error fault => .error fault
    | .error fault =>
      if fault.pending then
        match finish fault.rest with
        | .ok (_, rest) => .error ⟨fault.cause, rest, 0, false⟩
        | .error ending => .error ⟨fault.cause, ending.rest, 0, false⟩
      else
        .error fault

/-- The items of a list up to its bracket. Each takes a character at least, so the text itself bounds
    how many there are. -/
def items {α : Type} (item : Reader α) : List Char → Bool → Reader (List α)
  | [], _ => failNext .endInList
  | _ :: bound, first => do
    if ← nextItem first then
      let value ← item
      let others ← items item bound false
      return value :: others
    else
      return []

/-- A list after its opening bracket. -/
def list {α : Type} (item : Reader α) : Reader (List α) :=
  enclosed listEnd fun rest => items item rest true rest

/-- The members of an object up to its brace, in the same way. -/
def members {α : Type} (value : Reader α) : List Char → Bool → Reader (List (String × α))
  | [], _ => failNext .endInObject
  | _ :: bound, first => do
    if ← nextKey first then
      let name ← quoted
      colon
      let content ← value
      let others ← members value bound false
      return (name, content) :: others
    else
      return []

/-- An object after its opening brace. -/
def object {α : Type} (value : Reader α) : Reader (List (String × α)) :=
  enclosed objectEnd fun rest => members value rest true rest

end CarbonSurvey.Json.Reader
