import CarbonSurvey.Json.Fault

/-! # Readers

A reader takes what it wants from the front of a text, or finds a fault.
-/

namespace CarbonSurvey.Json

/-- Takes a value from the front of a text and gives back the rest. -/
def Reader (α : Type) : Type :=
  List Char → Except Fault (α × List Char)

/-- The characters that may stand around values and punctuation. -/
def isSpace (c : Char) : Bool :=
  c = ' ' || c = '\n' || c = '\t' || c = '\r'

namespace Reader

variable {α β : Type}

instance : Monad Reader where
  pure value := fun rest => .ok (value, rest)
  bind reader next := fun rest =>
    match reader rest with
    | .ok (value, rest) => next value rest
    | .error fault => .error fault

theorem pure_apply (value : α) (rest : List Char) :
    (pure value : Reader α) rest = .ok (value, rest) := rfl

theorem bind_apply (reader : Reader α) (next : α → Reader β) (rest : List Char) :
    (reader >>= next) rest =
      match reader rest with
      | .ok (value, rest) => next value rest
      | .error fault => .error fault := rfl

theorem bind_of_ok {reader : Reader α} {text rest : List Char} {value : α}
    (h : reader text = .ok (value, rest)) (next : α → Reader β) :
    (reader >>= next) text = next value rest := by
  rw [bind_apply, h]

theorem map_eq_bind (f : α → β) (reader : Reader α) :
    f <$> reader = reader >>= fun value => pure (f value) := rfl

/-- A fault between what was read and what comes next. -/
def failHere (cause : Cause) : Reader α :=
  fun rest => .error ⟨cause, rest, 0, false⟩

/-- A fault of the next byte. At the end of the text it is placed there. -/
def failNext (cause : Cause) : Reader α :=
  fun rest => .error ⟨cause, rest, 1, false⟩

/-- A fault of what has been read, to be placed by what encloses it. -/
def refuse (cause : Cause) : Reader α :=
  fun rest => .error ⟨cause, rest, 0, true⟩

/-- Skips spaces and looks at the next character. -/
def upcoming : Reader (Option Char) :=
  fun rest => .ok ((rest.dropWhile isSpace).head?, rest.dropWhile isSpace)

/-- Takes one character that was looked at before. -/
def advance : Reader Unit :=
  fun rest => .ok ((), rest.drop 1)

/-- The letters of a word, whose first letter has been taken. -/
def word : List Char → Reader Unit
  | [], rest => .ok ((), rest)
  | _ :: _, [] => failNext .endInValue []
  | letter :: letters, c :: rest =>
    if c = letter then word letters rest else failNext .expectedWord (c :: rest)

def colon : Reader Unit := do
  match ← upcoming with
  | some ':' => advance
  | some _ => failNext .expectedColon
  | none => failNext .endInObject

/-- The end of the text, up to which only spaces may stand. -/
def finish : Reader Unit := do
  match ← upcoming with
  | none => return ()
  | some _ => failNext .trailingCharacters

/-- Reads a value that takes up a whole text. -/
def readWhole (reader : Reader α) (text : List Char) : Except Fault α :=
  match (do let value ← reader; finish; return value : Reader α) text with
  | .ok (value, _) => .ok value
  | .error fault => .error fault

end Reader

end CarbonSurvey.Json
