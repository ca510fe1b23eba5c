import CarbonSurvey.Document.Model
import CarbonSurvey.Proofs.Document.Decoding

/-! # A model is decoded entry by entry

A document that is a JSON object is a model if each of its rows is decoded as an entry, whatever else there is in them
(`Model.read_object_iff`).
-/

namespace CarbonSurvey

open Json

/-- What an entry is decoded as, if it is decoded. -/
def Entry.ofJson? (value : Json) : Option Entry :=
  (Entry.ofJson value).toOption

namespace Model

theorem decodes_entryReader (room : Nat) : Reader.Decodes (entryReader room) (Reader.value room) Entry.ofJson? := by
  intro text
  unfold entryReader
  rw [Reader.toOption_bind]
  cases (Reader.value room text).toOption with
  | none => rfl
  | some taken =>
      simp only [Option.bind_some, Entry.ofJson?]
      cases Entry.ofJson taken.1 <;> rfl

theorem decodes_reader : Reader.Decodes reader (Reader.value Reader.maxNesting) (tableOf? Entry.ofJson?) :=
  decodes_tableOf? (decodes_entryReader (Reader.maxNesting - 1))

variable {limits : Limits} {document : Document} {rows : List (String × Json)} {value : Json} {model : Model}

/-- A document that is a JSON value is decoded as this value is. -/
theorem read_value_iff (parsed : (Reader.value Reader.maxNesting).readWhole document.text.toList = .ok value)
    (admitted : document.text.utf8ByteSize ≤ limits.maxModelBytes) :
    read limits document = .ok model ↔ tableOf? Entry.ofJson? value = some model := by
  have sized : read limits document = document.decode .registry reader := by
    rw [read, Document.checkSize_of_le admitted]
    rfl
  rw [sized, Document.decode_value_iff decodes_reader parsed]

/-- A document that is a JSON object is decoded row by row. -/
theorem read_object_iff (object : (Reader.value Reader.maxNesting).readWhole document.text.toList = .ok (.object rows))
    (admitted : document.text.utf8ByteSize ≤ limits.maxModelBytes) :
    read limits document = .ok model ↔
      ∃ entries, rows.mapM (Reader.readRow Entry.ofJson?) = some entries ∧ NameTable.ofRows entries = model := by
  rw [read_value_iff object admitted]
  exact Option.map_eq_some_iff

end Model

end CarbonSurvey
