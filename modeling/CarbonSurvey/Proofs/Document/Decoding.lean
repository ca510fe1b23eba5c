import CarbonSurvey.Document.Decode
import CarbonSurvey.NameTable
import CarbonSurvey.Proofs.Json.Decoding

/-! # Documents that are tables

A document that is a JSON value is decoded as this value is (`Document.decode_value_iff`), and a table is decoded from an
object, each member by itself (`tableOf?_eq_some_iff`).
-/

namespace CarbonSurvey

open Json

variable {α : Type} {decode? : Json → Option α} {value : Json}

/-- The table of what the members of a value are decoded as, if they all are. -/
def tableOf? (decode? : Json → Option α) (value : Json) : Option (NameTable α) :=
  (members? value).bind fun rows => (rows.mapM (Reader.readRow decode?)).map NameTable.ofRows

theorem tableOf?_eq_some_iff {table : NameTable α} :
    tableOf? decode? value = some table ↔
      ∃ rows, value = .object rows ∧
        ∃ entries, rows.mapM (Reader.readRow decode?) = some entries ∧ NameTable.ofRows entries = table := by
  simp only [tableOf?, Option.bind_eq_some_iff, members?_eq_some_iff, Option.map_eq_some_iff]

theorem decodes_tableOf? {item : Reader α} {room : Nat} (h : Reader.Decodes item (Reader.value room) decode?) :
    Reader.Decodes (NameTable.ofRows <$> Reader.objectOf item) (Reader.value (room + 1)) (tableOf? decode?) :=
  (h.objectOf.map NameTable.ofRows).trans (Reader.decodes_objectOf room)

theorem Document.decode_value_iff {reader : Reader α} {document : Document} {found : α}
    (h : Reader.Decodes reader (Reader.value Reader.maxNesting) decode?)
    (parsed : (Reader.value Reader.maxNesting).readWhole document.text.toList = .ok value) (kind : DocumentKind) :
    document.decode kind reader = .ok found ↔ decode? value = some found := by
  rw [Document.decode_eq_ok_iff, h.readWhole, parsed]
  rfl

end CarbonSurvey
