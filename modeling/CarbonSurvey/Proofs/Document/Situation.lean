import CarbonSurvey.Document.Situation
import CarbonSurvey.Proofs.Json.Rereading
import CarbonSurvey.Proofs.NameTable

/-! # What comes back of a situation

A situation that is written as a document and decoded again is read answer by answer: the names are the same, and
each answer is what its own text reads as (`Situation.getElem?_of_read`). Texts come back as they were, a number that
is not finite has no text and comes back unanswered, and a finite number is read as its text alone would be: as it
was if its digits are few, and not always otherwise (`odometer`).
-/

namespace CarbonSurvey

open Json

namespace Answer

/-- What an answer reads as once it is written. -/
def reread? : Answer → Option Answer
  | .number value => if value.isFinite then (Number.reread? value).map .number else some .unanswered
  | .text content => some (.text content)
  | .unanswered => some .unanswered

theorem reads_toJson (room : Nat) (answer : Answer) :
    Reader.Reads (ofJson <$> Reader.value room) answer.toJson.write answer.reread? := by
  cases answer with
  | text content => exact (Reader.reads_value_text room content).map ofJson
  | unanswered => exact (Reader.reads_value_null room).map ofJson
  | number value =>
      by_cases finite : value.isFinite
      · have read := (reads_value_number room finite).map ofJson
        rw [Option.map_map] at read
        rw [reread?, if_pos finite]
        exact read
      · have null : (toJson (.number value)).write = Json.null.write := by
          simp [toJson, write, Number.write, finite]
        rw [null, reread?, if_neg finite]
        exact (Reader.reads_value_null room).map ofJson

end Answer

namespace Situation

variable {limits : Limits} {situation reloaded : Situation} {source text : String}

/-- A text spells a situation when it is the object of its rows in some order. -/
def Spells (situation : Situation) (text : String) : Prop :=
  ∃ rows : List (String × Answer), rows.Perm situation.toList ∧ text = (Json.object (rows.map (Reader.memberOf Answer.toJson))).compact

theorem spells_write (situation : Situation) : situation.Spells situation.write :=
  ⟨situation.toList, .refl _, rfl⟩

theorem read_eq_decode (admitted : text.utf8ByteSize ≤ limits.maxSituationBytes) :
    read limits ⟨source, text⟩ = Document.decode .situation (reader (Reader.maxNesting - 1)) ⟨source, text⟩ := by
  rw [read, Document.checkSize_of_le admitted]
  rfl

/-- A spelled situation is decoded row by row. -/
theorem reads_reader (rows : List (String × Answer)) (room : Nat) :
    Reader.Reads (reader room) (Json.object (rows.map (Reader.memberOf Answer.toJson))).write
      ((rows.mapM (Reader.readRow Answer.reread?)).map NameTable.ofRows) :=
  (Reader.Reads.object fun row _ => Answer.reads_toJson room row.2).map NameTable.ofRows

theorem read_rows_iff {rows : List (String × Answer)}
    (admitted : (Json.object (rows.map (Reader.memberOf Answer.toJson))).compact.utf8ByteSize ≤
      limits.maxSituationBytes) :
    read limits ⟨source, (Json.object (rows.map (Reader.memberOf Answer.toJson))).compact⟩ = .ok reloaded ↔
      ∃ values, rows.mapM (Reader.readRow Answer.reread?) = some values ∧ NameTable.ofRows values = reloaded := by
  have written := String.toList_ofList (l := (Json.object (rows.map (Reader.memberOf Answer.toJson))).write)
  rw [read_eq_decode admitted, Document.decode_eq_ok_iff, compact, written, (reads_reader rows _).readWhole,
    Option.map_eq_some_iff]

/-- A situation is decoded exactly when each of its answers is. -/
theorem exists_read_iff (spelled : situation.Spells text) (admitted : text.utf8ByteSize ≤ limits.maxSituationBytes) :
    (∃ reloaded, read limits ⟨source, text⟩ = .ok reloaded) ↔
      ∀ (name : String) (answer : Answer), situation[name]? = some answer →
        ∃ again, answer.reread? = some again := by
  obtain ⟨rows, order, rfl⟩ := spelled
  have each : (∀ (name : String) (answer : Answer), situation[name]? = some answer →
      ∃ again, answer.reread? = some again) ↔ ∀ row ∈ rows, ∃ again, row.2.reread? = some again := by
    have mem := NameTable.mem_rows order
    exact ⟨fun all row hrow => all row.1 row.2 ((mem row.1 row.2).1 hrow),
      fun all name answer found => all (name, answer) ((mem name answer).2 found)⟩
  rw [each, ← Reader.exists_mapM_readRow_iff]
  exact ⟨fun ⟨reloaded, read⟩ => ((read_rows_iff admitted).1 read).imp fun _ => And.left,
    fun ⟨values, read⟩ => ⟨_, (read_rows_iff admitted).2 ⟨values, read, rfl⟩⟩⟩

/-- What comes back under a name is what the answer of that name reads as. -/
theorem getElem?_of_read (spelled : situation.Spells text)
    (admitted : text.utf8ByteSize ≤ limits.maxSituationBytes) (h : read limits ⟨source, text⟩ = .ok reloaded)
    (name : String) : reloaded[name]? = situation[name]?.bind Answer.reread? := by
  obtain ⟨rows, order, rfl⟩ := spelled
  obtain ⟨values, read, rfl⟩ := (read_rows_iff admitted).1 h
  obtain ⟨names, rereads⟩ := Reader.mapM_readRow_spec read
  refine Option.ext fun again => ?_
  rw [NameTable.getElem?_ofRows (names ▸ NameTable.nodup_names order), rereads, Option.bind_eq_some_iff]
  exact exists_congr fun answer => and_congr_left' (NameTable.mem_rows order name answer)

/-- What comes back of a situation, answer by answer. -/
structure Reloads (situation reloaded : Situation) : Prop where
  names : ∀ name : String, name ∈ reloaded ↔ name ∈ situation
  text : ∀ (name content : String), situation[name]? = some (.text content) →
    reloaded[name]? = some (.text content)
  unanswered : ∀ name : String, situation[name]? = some .unanswered → reloaded[name]? = some .unanswered
  notFinite : ∀ (name : String) (value : Float), situation[name]? = some (.number value) →
    value.isFinite = false → reloaded[name]? = some .unanswered
  finite : ∀ (name : String) (value : Float), situation[name]? = some (.number value) → value.isFinite →
    ∃ number, Number.DecodesTo value number ∧ reloaded[name]? = some (.number number.toFloat)

/-- A situation whose document has room is decoded exactly when the text of each of its finite numbers is a number
    on its own, and it comes back answer by answer. -/
theorem read_answerwise (spelled : situation.Spells text) (admitted : text.utf8ByteSize ≤ limits.maxSituationBytes) :
    ((∃ reloaded, read limits ⟨source, text⟩ = .ok reloaded) ↔
      ∀ (name : String) (value : Float), situation[name]? = some (.number value) → value.isFinite →
        ∃ number, Number.DecodesTo value number) ∧
    ∀ reloaded, read limits ⟨source, text⟩ = .ok reloaded → situation.Reloads reloaded := by
  constructor
  · rw [exists_read_iff spelled admitted]
    constructor
    · intro all name value found finite
      obtain ⟨again, read⟩ := all name _ found
      rw [Answer.reread?, if_pos finite] at read
      obtain ⟨number, own, -⟩ := Option.map_eq_some_iff.1 read
      exact ⟨.decimal number, (Number.decodesTo_iff finite).2 ⟨number, own, rfl⟩⟩
    · intro all name answer found
      cases answer with
      | text content => exact ⟨_, rfl⟩
      | unanswered => exact ⟨_, rfl⟩
      | number value =>
          by_cases finite : value.isFinite
          · obtain ⟨number, alone⟩ := all name value found finite
            obtain ⟨again, read, rfl⟩ := (Number.decodesTo_iff finite).1 alone
            exact ⟨.number again, by rw [Answer.reread?, if_pos finite, read]; rfl⟩
          · exact ⟨.unanswered, by rw [Answer.reread?, if_neg finite]⟩
  · intro reloaded read
    have lookup := getElem?_of_read spelled admitted read
    have each := (exists_read_iff spelled admitted).1 ⟨reloaded, read⟩
    refine ⟨fun name => ?_, fun name content found => ?_, fun name found => ?_, fun name value found finite => ?_,
      fun name value found finite => ?_⟩
    · rw [Std.ExtTreeMap.mem_iff_isSome_getElem?, Std.ExtTreeMap.mem_iff_isSome_getElem?, lookup]
      cases found : situation[name]? with
      | none => rfl
      | some answer =>
          obtain ⟨again, read⟩ := each name answer found
          simp [read]
    · rw [lookup, found]
      rfl
    · rw [lookup, found]
      rfl
    · rw [lookup, found, Option.bind_some, Answer.reread?, if_neg (by simp [finite])]
    · obtain ⟨again, read⟩ := each name _ found
      rw [Answer.reread?, if_pos finite] at read
      obtain ⟨number, own, -⟩ := Option.map_eq_some_iff.1 read
      refine ⟨.decimal number, (Number.decodesTo_iff finite).2 ⟨number, own, rfl⟩, ?_⟩
      rw [lookup, found, Option.bind_some, Answer.reread?, if_pos finite, own]
      rfl

/-- Answers of every kind, under names and with texts that have to be escaped. -/
def motley : Situation :=
  .ofRows [("say \"hi\"\n", .text "\\ \x01 é"), ("", .number 9007199254740991.0), ("pet", .unanswered),
    ("km", .number (0.0 / 0.0))]

/-- The number of these answers comes back as its neighbour. -/
theorem motley_reloads : ∃ reloaded, read {} ⟨"situation.json", motley.write⟩ = .ok reloaded ∧
    motley.Reloads reloaded := by
  have admitted : motley.write.utf8ByteSize ≤ ({} : Limits).maxSituationBytes := by decide +kernel
  obtain ⟨succeeds, answerwise⟩ :=
    @read_answerwise {} motley "situation.json" motley.write (spells_write motley) admitted
  have numbers : ∀ (name : String) (value : Float), motley[name]? = some (.number value) → value.isFinite →
      ∃ number, Number.DecodesTo value number := by
    intro name value found finite
    have row := (NameTable.getElem?_ofRows (by decide) name _).1 found
    simp only [List.mem_cons, Prod.mk.injEq, reduceCtorEq, and_false, Answer.number.injEq, List.not_mem_nil,
      or_false, false_or] at row
    rcases row with ⟨-, rfl⟩ | ⟨-, rfl⟩
    · exact ⟨_, (Number.decodesTo_iff finite).2 ⟨9007199254740990.0, by decide +kernel, rfl⟩⟩
    · have undefined : (0.0 / 0.0 : Float).isFinite = false := by decide +kernel
      rw [undefined] at finite
      cases finite
  obtain ⟨reloaded, read⟩ := succeeds.2 numbers
  exact ⟨reloaded, read, answerwise reloaded read⟩

/-- A situation comes back exactly when each of its answers does. -/
theorem read_self_iff_reread (spelled : situation.Spells text)
    (admitted : text.utf8ByteSize ≤ limits.maxSituationBytes) :
    read limits ⟨source, text⟩ = .ok situation ↔
      ∀ (name : String) (value : Float), situation[name]? = some (.number value) →
        value.isFinite ∧ Number.reread? value = some value := by
  constructor
  · intro read name value found
    have kept := getElem?_of_read spelled admitted read name
    rw [found, Option.bind_some, Answer.reread?] at kept
    split at kept
    · next finite =>
      obtain ⟨again, own, same⟩ := Option.map_eq_some_iff.1 kept.symm
      cases same
      exact ⟨finite, own⟩
    · cases kept
  · intro all
    have kept : ∀ (name : String) (answer : Answer), situation[name]? = some answer →
        answer.reread? = some answer := by
      intro name answer found
      cases answer with
      | text content => rfl
      | unanswered => rfl
      | number value =>
          obtain ⟨finite, own⟩ := all name value found
          rw [Answer.reread?, if_pos finite, own]
          rfl
    obtain ⟨reloaded, read⟩ := (exists_read_iff spelled admitted).2 fun name answer found =>
      ⟨answer, kept name answer found⟩
    have same : reloaded = situation := by
      refine Std.ExtTreeMap.ext_getElem? fun name => ?_
      rw [getElem?_of_read spelled admitted read]
      cases found : situation[name]? with
      | none => rfl
      | some answer => exact kept name answer found
    rw [← same]
    exact read

/-- A situation is decoded from its document as it was exactly when its numbers are finite and each is what its
    shortest digits come to once they are scaled; and that is so of every number with few digits. -/
theorem read_eq_self_iff (spelled : situation.Spells text)
    (admitted : text.utf8ByteSize ≤ limits.maxSituationBytes) :
    (read limits ⟨source, text⟩ = .ok situation ↔
      ∀ (name : String) (value : Float), situation[name]? = some (.number value) →
        value.isFinite ∧ Number.reread? value = some value) ∧
      ((∀ (name : String) (value : Float), situation[name]? = some (.number value) →
          value.isFinite ∧ (Decimal.shortest .even value).Short) →
        read limits ⟨source, text⟩ = .ok situation) := by
  have exactly := @read_self_iff_reread limits situation source text spelled admitted
  refine ⟨exactly, fun few => exactly.2 fun name value found => ?_⟩
  obtain ⟨finite, short⟩ := few name value found
  exact ⟨finite, Number.reread?_eq_self finite short⟩

/-- Everyday answers come back as they were. -/
def everyday : Situation :=
  .ofRows [("km", .number 12.5), ("diet", .text "végétarien"), ("pet", .unanswered)]

theorem everyday_kept : read {} ⟨"situation.json", everyday.write⟩ = .ok everyday := by
  have admitted : everyday.write.utf8ByteSize ≤ ({} : Limits).maxSituationBytes := by decide +kernel
  refine (read_eq_self_iff (spells_write everyday) admitted).2 fun name value found => ?_
  have row := (NameTable.getElem?_ofRows (by decide) name _).1 found
  simp only [List.mem_cons, Prod.mk.injEq, reduceCtorEq, and_false, Answer.number.injEq, List.not_mem_nil,
    or_false] at row
  obtain ⟨-, rfl⟩ := row
  exact ⟨by decide +kernel, by decide +kernel⟩

/-- One answer, the largest odd number that a double can hold. -/
def odometer : Situation :=
  .ofRows [("km", .number 9007199254740991.0)]

/-- Its text is `9007199254740991.0`, of which the seventeen digits together are no double. -/
theorem odometer_changed :
    (∀ (name : String) (value : Float), odometer[name]? = some (.number value) → value.isFinite) ∧
      odometer.write.utf8ByteSize ≤ ({} : Limits).maxSituationBytes ∧
      ∃ reloaded, read {} ⟨"situation.json", odometer.write⟩ = .ok reloaded ∧
        reloaded["km"]? = some (.number 9007199254740990.0) ∧ reloaded ≠ odometer := by
  have rows : ∀ (name : String) (answer : Answer), odometer[name]? = some answer →
      answer = .number 9007199254740991.0 := by
    intro name answer found
    have row := (NameTable.getElem?_ofRows (by decide) name _).1 found
    exact (Prod.mk.inj (List.mem_singleton.1 row)).2
  have km : odometer["km"]? = some (.number 9007199254740991.0) :=
    (NameTable.getElem?_ofRows (by decide) _ _).2 (.head _)
  have rereads : (Answer.number 9007199254740991.0).reread? = some (.number 9007199254740990.0) := by
    decide +kernel
  have admitted : odometer.write.utf8ByteSize ≤ ({} : Limits).maxSituationBytes := by decide +kernel
  have each : ∀ (name : String) (answer : Answer), odometer[name]? = some answer →
      ∃ again, answer.reread? = some again := by
    intro name answer found
    rw [rows name answer found]
    exact ⟨_, rereads⟩
  obtain ⟨reloaded, read⟩ :=
    (@exists_read_iff {} odometer "situation.json" _ (spells_write odometer) admitted).2 each
  have lookup := getElem?_of_read (spells_write odometer) admitted read "km"
  rw [km, Option.bind_some, rereads] at lookup
  refine ⟨fun name value found => ?_, admitted, reloaded, read, lookup, ?_⟩
  · rw [Answer.number.inj (rows name _ found)]
    decide +kernel
  · rintro rfl
    rw [km] at lookup
    exact absurd lookup (by decide +kernel)

end Situation

end CarbonSurvey
