import CarbonSurvey.Document.Decode
import CarbonSurvey.Json.Decoder
import CarbonSurvey.Limits
import CarbonSurvey.Situation

/-! # Situations as documents

A situation is an object from names to answers. Anything that is neither a number nor a text counts
as unanswered. A poll is a list of situations.
-/

namespace CarbonSurvey

open Json

def Answer.ofJson : Json → Answer
  | .number value => .number value.toFloat
  | .text value => .text value
  | _ => .unanswered

def Answer.toJson : Answer → Json
  | .number value => .number (.decimal value)
  | .text value => .text value
  | .unanswered => .null

namespace Situation

def toJson (situation : Situation) : Json :=
  .object (situation.toList.map fun (name, answer) => (name, answer.toJson))

/-- The situation as a document, its names in order. -/
def write (situation : Situation) : String :=
  situation.toJson.compact

def reader (room : Nat) : Reader Situation := do
  let rows ← Reader.objectOf (Answer.ofJson <$> Reader.value room)
  return NameTable.ofRows rows

/-- Decodes one situation. -/
def read (limits : Limits) (document : Document) : Except Error Situation := do
  document.checkSize "max_situation_bytes" limits.maxSituationBytes
  document.decode .situation (reader (Reader.maxNesting - 1))

/-- Decodes the situations of a poll, in their order. -/
def readMany (limits : Limits) (document : Document) : Except Error (List Situation) := do
  document.checkSize "max_batch_bytes" limits.maxBatchBytes
  document.decode .situation (Reader.listOf (reader (Reader.maxNesting - 2)))

end Situation

end CarbonSurvey
