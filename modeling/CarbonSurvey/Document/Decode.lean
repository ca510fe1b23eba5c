import CarbonSurvey.Error
import CarbonSurvey.Json.Reader

/-! # Decoding documents

Every document is decoded in the same way: its size is checked, it is read from end to end, and a
fault becomes an error with its line and column.
-/

namespace CarbonSurvey.Document

def errorOf (kind : DocumentKind) (document : Document) (fault : Json.Fault) : Error :=
  .document kind
    { message := fault.cause.message
      position := .ofIndex document.text.toList (fault.index document.text.toList)
      document }

def decode {α : Type} (kind : DocumentKind) (reader : Json.Reader α) (document : Document) :
    Except Error α :=
  (reader.readWhole document.text.toList).mapError (errorOf kind document)

theorem decode_eq_ok_iff {α : Type} {kind : DocumentKind} {reader : Json.Reader α} {document : Document} {value : α} :
    document.decode kind reader = .ok value ↔ (reader.readWhole document.text.toList).toOption = some value := by
  unfold decode
  cases reader.readWhole document.text.toList with
  | ok read => exact ⟨fun h => congrArg some (Except.ok.inj h), fun h => congrArg Except.ok (Option.some.inj h)⟩
  | error fault => exact ⟨nofun, nofun⟩

/-- Refuses a document that has too many bytes. -/
def checkSize (limit : String) (allowed : Nat) (document : Document) : Except Error Unit :=
  if allowed < document.text.utf8ByteSize then
    .error (.tooLarge limit allowed document.text.utf8ByteSize)
  else
    .ok ()

theorem checkSize_of_le {allowed : Nat} {document : Document} (h : document.text.utf8ByteSize ≤ allowed)
    (limit : String) : checkSize limit allowed document = .ok () :=
  if_neg (Nat.not_lt.2 h)

end CarbonSurvey.Document
