import CarbonSurvey.Document.Catalogue
import CarbonSurvey.Proofs.Json.Reading

/-! # Catalogues come back as they were written

A catalogue that is written as a document and decoded again is the same catalogue: the same facts in the same
order, each with its key, its dotted name and its aggregation (`Catalogue.read_write`).
-/

namespace CarbonSurvey

open Json Json.Reader

namespace Aggregation

theorem ofName?_name (aggregation : Aggregation) : ofName? aggregation.name = some aggregation := by
  cases aggregation <;> rfl

theorem reader_write (aggregation : Aggregation) (rest : List Char) :
    reader ((Json.text aggregation.name).write ++ rest) = .ok (aggregation, rest) := by
  have written : (Json.text aggregation.name).write ++ rest =
      '"' :: (writeChars aggregation.name.toList ++ '"' :: rest) := by
    simp [write, quote]
  rw [written]
  simp only [reader]
  rw [bind_of_ok (upcoming_cons (by decide) _)]
  change (quoted >>= _) (writeChars aggregation.name.toList ++ '"' :: rest) = _
  rw [bind_of_ok (quoted_writeChars _ _), ofName?_name]
  rfl

end Aggregation

namespace Fact

variable {found : Fields}

theorem field_key (h : found.key = none) (key : String) (rest : List Char) :
    field "key" found (':' :: ((Json.text key).write ++ rest)) = .ok ({ found with key := some key }, rest) := by
  rw [field, if_pos rfl, h]
  change (Reader.text >>= _) ((Json.text key).write ++ rest) = _
  rw [bind_of_ok (text_write key rest)]
  rfl

theorem field_dottedName (h : found.dottedName = none) (name : String) (rest : List Char) :
    field "dottedName" found (':' :: ((Json.text name).write ++ rest)) =
      .ok ({ found with dottedName := some name }, rest) := by
  rw [field, if_neg (by decide), if_pos rfl, h]
  change (Reader.text >>= _) ((Json.text name).write ++ rest) = _
  rw [bind_of_ok (text_write name rest)]
  rfl

theorem field_aggregation (h : found.aggregation = none) (aggregation : Aggregation) (rest : List Char) :
    field "aggregation" found (':' :: ((Json.text aggregation.name).write ++ rest)) =
      .ok ({ found with aggregation := some aggregation }, rest) := by
  rw [field, if_neg (by decide), if_neg (by decide), if_pos rfl, h]
  change (Aggregation.reader >>= _) ((Json.text aggregation.name).write ++ rest) = _
  rw [bind_of_ok (Aggregation.reader_write aggregation rest)]
  rfl

/-- A field that is read as it should adds what it adds, and the fields after it are read. -/
theorem fields_separator {found next : Fields} {name : String} {text rest : List Char}
    (h : field name found (':' :: (text ++ rest)) = .ok (next, rest)) (first : Bool) (mark : Char)
    (bound : List Char) :
    fields (mark :: bound) first found (separator first ++ (memberText name text ++ rest)) =
      fields bound false next rest := by
  rw [memberText_append, fields, bind_of_ok (nextKey_separator first _), if_pos rfl,
    bind_of_ok (quoted_writeChars name _), bind_of_ok h]

/-- The members of a fact as they are written. -/
theorem fields_write (fact : Fact) (bound rest : List Char) (h : 3 < bound.length) :
    fields bound true ⟨none, none, none⟩ (memberText "key" (Json.text fact.key).write ++
        (separator false ++ (memberText "dottedName" (Json.text fact.dottedName).write ++
          (separator false ++ (memberText "aggregation" (Json.text fact.aggregation.name).write ++
            '\x7d' :: rest))))) =
      .ok (⟨some fact.key, some fact.dottedName, some fact.aggregation⟩, '\x7d' :: rest) := by
  obtain ⟨first, second, third, fourth, bound, rfl⟩ :
      ∃ first second third fourth bound', bound = first :: second :: third :: fourth :: bound' := by
    match bound, h with
    | first :: second :: third :: fourth :: bound, _ => exact ⟨first, second, third, fourth, bound, rfl⟩
  have key := fun rest =>
    fields_separator (field_key (rfl : (⟨none, none, none⟩ : Fields).key = none) fact.key rest) true first
  rw [separator] at key
  rw [← List.nil_append (memberText "key" _ ++ _), key,
    fields_separator (field_dottedName rfl fact.dottedName _) false,
    fields_separator (field_aggregation rfl fact.aggregation _) false]
  rfl

theorem reads_reader (fact : Fact) : Reads reader fact.toJson.write (some fact) := by
  intro rest _
  have written : fact.toJson.write ++ rest = '\x7b' :: (memberText "key" (Json.text fact.key).write ++
      (separator false ++ (memberText "dottedName" (Json.text fact.dottedName).write ++
        (separator false ++ (memberText "aggregation" (Json.text fact.aggregation.name).write ++
          '\x7d' :: rest))))) := by
    simp [toJson, write, writeMembers, memberText, separator]
  have inside : ∀ after, (reader ('\x7b' :: after)).toOption =
      ((fields after true ⟨none, none, none⟩ >>= ofFields : Reader Fact) after).toOption.bind
        fun taken => (objectEnd taken.2).toOption.map fun ended => (taken.1, ended.2) := fun after =>
    toOption_enclosed objectEnd
      (fun after => (fields after true ⟨none, none, none⟩ >>= ofFields : Reader Fact) after) after
  rw [written, inside, bind_of_ok (fields_write fact _ rest _)]
  · rfl
  · simp [memberText, quote]
    omega

end Fact

namespace Catalogue

theorem reads_reader (catalogue : Catalogue) : Reads reader catalogue.toJson.write (some catalogue) := by
  have facts : Reads reader catalogue.toJson.write (catalogue.mapM some) := by
    refine Reads.list (fun fact _ => ?_) fun fact _ => Fact.reads_reader fact
    exact ⟨'\x7b', rfl, by decide, by decide⟩
  have kept : catalogue.mapM some = some catalogue :=
    (List.mapM_pure (m := Option) (f := id)).trans (congrArg some catalogue.map_id)
  rwa [kept] at facts

/-- Every catalogue is decoded from its own document as it was. -/
theorem read_write (catalogue : Catalogue) (source : String) :
    read ⟨source, catalogue.write⟩ = .ok catalogue := by
  have written : catalogue.write.toList = catalogue.toJson.write := String.toList_ofList
  rw [read, Document.decode_eq_ok_iff, written]
  exact (reads_reader catalogue).readWhole

end Catalogue

end CarbonSurvey
