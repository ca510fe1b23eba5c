import CarbonSurvey.Json.Value
import CarbonSurvey.Decimal.Layout

/-! # Writing JSON

The compact form has no blanks at all; the spread form puts every item on a line of its own. A
number that is not finite has no spelling and is written `null`.
-/

namespace CarbonSurvey.Json

def hexDigit (n : Nat) : Char :=
  Nat.digitChar (n % 16)

/-- A character inside quotes. Only quotes, backslashes and control characters are escaped. -/
def writeChar (c : Char) : List Char :=
  if c = '"' then ['\\', '"']
  else if c = '\\' then ['\\', '\\']
  else if c = '\x08' then ['\\', 'b']
  else if c = '\x0C' then ['\\', 'f']
  else if c = '\n' then ['\\', 'n']
  else if c = '\r' then ['\\', 'r']
  else if c = '\t' then ['\\', 't']
  else if c.toNat < 0x20 then ['\\', 'u', '0', '0', hexDigit (c.toNat / 16), hexDigit c.toNat]
  else [c]

def writeChars (text : List Char) : List Char :=
  text.flatMap writeChar

def quote (text : String) : List Char :=
  '"' :: writeChars text.toList ++ ['"']

def Number.write : Number → List Char
  | .whole value => (toString value).toList
  | .decimal value =>
    if value.isFinite then Decimal.Layout.document.writeFinite value else ['n', 'u', 'l', 'l']

mutual

def write : Json → List Char
  | .null => ['n', 'u', 'l', 'l']
  | .bool true => ['t', 'r', 'u', 'e']
  | .bool false => ['f', 'a', 'l', 's', 'e']
  | .number value => value.write
  | .text value => quote value
  | .list [] => ['[', ']']
  | .list (item :: items) => '[' :: write item ++ writeItems items
  | .object [] => ['\x7b', '\x7d']
  | .object ((key, value) :: members) =>
    '\x7b' :: quote key ++ ':' :: write value ++ writeMembers members

/-- The items after the first, each behind a comma, and the bracket. -/
def writeItems : List Json → List Char
  | [] => [']']
  | item :: items => ',' :: write item ++ writeItems items

/-- The members after the first, each behind a comma, and the brace. -/
def writeMembers : List (String × Json) → List Char
  | [] => ['\x7d']
  | (key, value) :: members => ',' :: quote key ++ ':' :: write value ++ writeMembers members

end

/-- The text of a value in the compact form. -/
def compact (value : Json) : String :=
  .ofList value.write

def indent (depth : Nat) : List Char :=
  '\n' :: List.replicate (2 * depth) ' '

mutual

def writeSpread (depth : Nat) : Json → List Char
  | .list (item :: items) =>
    '[' :: indent (depth + 1) ++ writeSpread (depth + 1) item ++ writeSpreadItems depth items
  | .object ((key, value) :: members) =>
    '\x7b' :: indent (depth + 1) ++ quote key ++ ':' :: ' ' :: writeSpread (depth + 1) value ++
      writeSpreadMembers depth members
  | value => write value

def writeSpreadItems (depth : Nat) : List Json → List Char
  | [] => indent depth ++ [']']
  | item :: items =>
    ',' :: indent (depth + 1) ++ writeSpread (depth + 1) item ++ writeSpreadItems depth items

def writeSpreadMembers (depth : Nat) : List (String × Json) → List Char
  | [] => indent depth ++ ['\x7d']
  | (key, value) :: members =>
    ',' :: indent (depth + 1) ++ quote key ++ ':' :: ' ' :: writeSpread (depth + 1) value ++
      writeSpreadMembers depth members

end

/-- The text of a value in the spread form, two blanks deeper at each level. -/
def spread (value : Json) : String :=
  .ofList (writeSpread 0 value)

end CarbonSurvey.Json
