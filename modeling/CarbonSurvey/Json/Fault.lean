import CarbonSurvey.Json.Value
import CarbonSurvey.Json.Writer
import CarbonSurvey.Text.Position
import CarbonSurvey.Text.Quoted

/-! # Faults in a JSON text

A fault is a cause and a place. The place is kept as the text that was still to be read, because
that is what a reader has in its hands; `Fault.index` turns it into a byte index.
-/

namespace CarbonSurvey.Json

/-- What a reader met instead of what it wanted. -/
inductive Found where
  | null
  | bool (value : Bool)
  | number (value : Number)
  | text (value : String)
  | list
  | object
  deriving Repr, DecidableEq

/-- What a value is, as far as a message tells. -/
def Found.ofJson : Json → Found
  | .null => .null
  | .bool value => .bool value
  | .number value => .number value
  | .text value => .text value
  | .list _ => .list
  | .object _ => .object

inductive Cause where
  | endInList
  | endInObject
  | endInText
  | endInValue
  | expectedColon
  | expectedListCommaOrEnd
  | expectedObjectCommaOrEnd
  | expectedWord
  | expectedValue
  | invalidEscape
  | invalidNumber
  | numberOutOfRange
  | controlCharacter
  | keyMustBeText
  | loneSurrogate
  | hexEscapeCut
  | trailingComma
  | trailingCharacters
  | nestedTooDeep
  | wrongType (found : Found) (expected : String)
  | missingField (name : String)
  | duplicateField (name : String)
  | unknownVariant (name : String) (known : List String)
  | wrongLength (length : Nat) (expected : String)
  deriving Repr, DecidableEq

def marked (text : String) : String :=
  "`" ++ text ++ "`"

def Found.message : Found → String
  | .null => "null"
  | .bool value => "boolean " ++ marked (if value then "true" else "false")
  | .number (.whole value) => "integer " ++ marked (toString value)
  | .number (.decimal value) => "floating point " ++ marked (.ofList (Number.decimal value).write)
  | .text value => "string " ++ Text.quoted value
  | .list => "sequence"
  | .object => "map"

def Cause.message : Cause → String
  | .endInList => "EOF while parsing a list"
  | .endInObject => "EOF while parsing an object"
  | .endInText => "EOF while parsing a string"
  | .endInValue => "EOF while parsing a value"
  | .expectedColon => "expected `:`"
  | .expectedListCommaOrEnd => "expected `,` or `]`"
  | .expectedObjectCommaOrEnd => "expected `,` or `\x7d`"
  | .expectedWord => "expected ident"
  | .expectedValue => "expected value"
  | .invalidEscape => "invalid escape"
  | .invalidNumber => "invalid number"
  | .numberOutOfRange => "number out of range"
  | .controlCharacter => "control character (\\u0000-\\u001F) found while parsing a string"
  | .keyMustBeText => "key must be a string"
  | .loneSurrogate => "lone leading surrogate in hex escape"
  | .hexEscapeCut => "unexpected end of hex escape"
  | .trailingComma => "trailing comma"
  | .trailingCharacters => "trailing characters"
  | .nestedTooDeep => "recursion limit exceeded"
  | .wrongType found expected => "invalid type: " ++ found.message ++ ", expected " ++ expected
  | .missingField name => "missing field " ++ marked name
  | .duplicateField name => "duplicate field " ++ marked name
  | .unknownVariant name known =>
    "unknown variant " ++ marked name ++ ", expected one of " ++
      ", ".intercalate (known.map marked)
  | .wrongLength length expected =>
    "invalid length " ++ toString length ++ ", expected " ++ expected

structure Fault where
  cause : Cause
  /-- The text not yet read when the fault was found. -/
  rest : List Char
  /-- How many bytes of `rest` the fault has already touched. -/
  touched : Nat
  /-- A fault of what a text means, whose place is settled by the list or object around it. -/
  pending : Bool
  deriving Repr, DecidableEq

/-- The byte index of a fault in the text it was found in. -/
def Fault.index (fault : Fault) (text : List Char) : Nat :=
  Text.byteLength text - (Text.byteLength fault.rest - fault.touched)

end CarbonSurvey.Json
