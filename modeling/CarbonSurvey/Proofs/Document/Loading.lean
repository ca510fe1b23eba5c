import CarbonSurvey.Proofs.Document.Model
import CarbonSurvey.Proofs.NameTable
import Mathlib.Data.List.Dedup

/-! # What makes a model unreadable

A JSON text is a model if it is an object and none of its members, the ones that are replaced later included, has a
field of a rule in both spellings. Nothing else that can stand in an entry makes a difference, at any depth
(`Model.only_clashes_refused`). A name that is there more than once has the entry that stands last, and is one of the
entries that the record of the model counts (`Model.load_records`).
-/

namespace CarbonSurvey

open Json

theorem isSome_lookup? {name : String} {members : List (String × Json)} :
    (lookup? name members).isSome ↔ name ∈ members.map Prod.fst := by
  induction members with
  | nil => simp [lookup?]
  | cons member members ih =>
      obtain ⟨key, value⟩ := member
      rw [List.map_cons, List.mem_cons, ← ih, lookup?]
      cases lookup? name members with
      | some found => simp
      | none =>
          by_cases same : key = name
          · simp [same]
          · simp [same, Ne.symm same]

namespace Entry

/-- The value has one of the fields of a rule in both spellings. -/
def Clashes (value : Json) : Prop :=
  ∃ members, value = .object members ∧ ∃ key ∈ [Key.applicableIf, Key.default, Key.formula],
    key.french ∈ members.map Prod.fst ∧ key.english ∈ members.map Prod.fst

theorem clash?_isSome_iff (members : List (String × Json)) :
    (Rule.clash? members).isSome ↔ Clashes (.object members) := by
  unfold Rule.clash? Clashes
  rw [List.find?_isSome]
  constructor
  · rintro ⟨key, listed, both⟩
    rw [Bool.and_eq_true, isSome_lookup?, isSome_lookup?] at both
    refine ⟨members, rfl, key, ?_, both⟩
    simp only [List.mem_cons, List.not_mem_nil, or_false] at listed ⊢
    tauto
  · rintro ⟨_, same, key, listed, both⟩
    cases same
    rw [← isSome_lookup?, ← isSome_lookup?, ← Bool.and_eq_true] at both
    refine ⟨key, ?_, both⟩
    simp only [List.mem_cons, List.not_mem_nil, or_false] at listed ⊢
    tauto

/-- Whatever has no field twice is an entry. -/
theorem exists_ofJson?_iff {value : Json} : (∃ entry, ofJson? value = some entry) ↔ ¬ Clashes value := by
  cases value with
  | object members =>
      rw [← clash?_isSome_iff, ofJson?, ofJson]
      cases Rule.clash? members with
      | none => simp [Except.toOption]
      | some key => simp [Except.toOption]
  | _ =>
      refine ⟨fun _ => ?_, fun _ => ⟨_, rfl⟩⟩
      rintro ⟨members, object, -⟩
      cases object

theorem ofJson_eq_ok_iff {value : Json} {entry : Entry} : ofJson value = .ok entry ↔ ofJson? value = some entry := by
  unfold ofJson?
  cases ofJson value with
  | ok found => exact ⟨fun h => congrArg some (Except.ok.inj h), fun h => congrArg Except.ok (Option.some.inj h)⟩
  | error cause => simp [Except.toOption]

end Entry

namespace Model

variable {limits : Limits} {document : Document} {value : Json} {model : Model}

theorem exists_tableOf?_iff :
    (∃ model, tableOf? Entry.ofJson? value = some model) ↔
      ∃ rows, value = .object rows ∧ ∀ row ∈ rows, ¬ Entry.Clashes row.2 := by
  constructor
  · rintro ⟨model, read⟩
    obtain ⟨rows, object, entries, decoded, -⟩ := tableOf?_eq_some_iff.1 read
    refine ⟨rows, object, fun row listed => ?_⟩
    exact Entry.exists_ofJson?_iff.1 (Reader.exists_mapM_readRow_iff.1 ⟨entries, decoded⟩ row listed)
  · rintro ⟨rows, object, apart⟩
    obtain ⟨entries, decoded⟩ :=
      Reader.exists_mapM_readRow_iff.2 fun row listed => Entry.exists_ofJson?_iff.2 (apart row listed)
    exact ⟨_, tableOf?_eq_some_iff.2 ⟨rows, object, entries, decoded, rfl⟩⟩

/-- The model has the names of the rows, each with what the last row of the name is decoded as. -/
structure HoldsRows (model : Model) (rows : List (String × Json)) : Prop where
  names : ∀ name, name ∈ model ↔ name ∈ rows.map Prod.fst
  entries : ∀ before name found after, rows = before ++ (name, found) :: after → name ∉ after.map Prod.fst →
    ∃ entry, Entry.ofJson found = .ok entry ∧ model[name]? = some entry

theorem holdsRows_of_decoded {rows : List (String × Json)} {entries : List (String × Entry)}
    (decoded : rows.mapM (Reader.readRow Entry.ofJson?) = some entries) :
    HoldsRows (NameTable.ofRows entries) rows where
  names := by
    intro name
    rw [NameTable.mem_ofRows, (Reader.mapM_readRow_spec decoded).1]
  entries := by
    rintro before name found after rfl last
    rw [List.mapM_append] at decoded
    obtain ⟨first, -, decoded⟩ := Option.bind_eq_some_iff.1 decoded
    obtain ⟨others, hothers, decoded⟩ := Option.bind_eq_some_iff.1 decoded
    rw [Reader.mapM_readRow_cons] at hothers
    obtain ⟨entry, hentry, hothers⟩ := Option.bind_eq_some_iff.1 hothers
    obtain ⟨rest, hrest, hothers⟩ := Option.bind_eq_some_iff.1 hothers
    cases hothers
    cases decoded
    rw [← (Reader.mapM_readRow_spec hrest).1] at last
    exact ⟨entry, Entry.ofJson_eq_ok_iff.2 hentry, NameTable.getElem?_ofRows_last last first entry⟩

theorem exists_holdsRows (parsed : (Reader.value Reader.maxNesting).readWhole document.text.toList = .ok value)
    (admitted : document.text.utf8ByteSize ≤ limits.maxModelBytes) (h : read limits document = .ok model) :
    ∃ rows, value = .object rows ∧ HoldsRows model rows := by
  obtain ⟨rows, object, entries, decoded, rfl⟩ := tableOf?_eq_some_iff.1 ((read_value_iff parsed admitted).1 h)
  exact ⟨rows, object, holdsRows_of_decoded decoded⟩

/-- A document that has room is refused as a model in one way only. -/
theorem exists_details_of_read_error {error : Error} (admitted : document.text.utf8ByteSize ≤ limits.maxModelBytes)
    (h : read limits document = .error error) : ∃ details, error = .document .registry details := by
  rw [read, Document.checkSize_of_le admitted] at h
  change (reader.readWhole document.text.toList).mapError (Document.errorOf .registry document) = .error error at h
  cases read : reader.readWhole document.text.toList with
  | ok model =>
      rw [read] at h
      cases h
  | error fault =>
      rw [read] at h
      cases h
      exact ⟨_, rfl⟩

/-- A document that is a JSON value and has room is a model exactly if it is an object and no member of it clashes with
    itself. The model holds the last member of each name, and the error that there is otherwise is one of a registry. -/
theorem only_clashes_refused (parsed : (Reader.value Reader.maxNesting).readWhole document.text.toList = .ok value)
    (admitted : document.text.utf8ByteSize ≤ limits.maxModelBytes) :
    ((∃ model, read limits document = .ok model) ↔
        ∃ rows, value = .object rows ∧ ∀ row ∈ rows, ¬ Entry.Clashes row.2) ∧
      (∀ model, read limits document = .ok model → ∃ rows, value = .object rows ∧ HoldsRows model rows) ∧
      ∀ error, read limits document = .error error → ∃ details, error = .document .registry details := by
  refine ⟨?_, fun model => exists_holdsRows parsed admitted, fun error => exists_details_of_read_error admitted⟩
  rw [← exists_tableOf?_iff]
  exact exists_congr fun model => read_value_iff parsed admitted

/-- A rule with nothing in it that can be made use of. That a field is there twice does not matter where no rule stands. -/
def oddRule : Json :=
  .object [("formule", .object [("variations", .list [.number (.whole 5),
    .object [("si", .object [("formule", .null), ("formula", .null)])]])]), ("par défaut", .list [])]

def oddModel : String :=
  "\x7b\"a\":\x7b\"formule\":\x7b\"variations\":[5,\x7b\"si\":\x7b\"formule\":null,\"formula\":null\x7d\x7d]\x7d,\"par défaut\":[]\x7d,\"b\":null,\"a\":true\x7d"

/-- Here the member that clashes is replaced by another. -/
def clashingModel : String :=
  "\x7b\"a\":\x7b\"formule\":null,\"formula\":null\x7d,\"a\":true\x7d"

theorem odd_model_loaded :
    (∃ model, read {} ⟨"model.json", oddModel⟩ = .ok model ∧ model["a"]? = some (.bare none)) ∧
      ∃ details, read {} ⟨"model.json", clashingModel⟩ = .error (.document .registry details) := by
  constructor
  · have parsed : (Reader.value Reader.maxNesting).readWhole oddModel.toList =
        .ok (.object [("a", oddRule), ("b", .null), ("a", .bool true)]) := by
      simp only [oddModel, String.reduceToList]
      rfl
    obtain ⟨loads, holds, -⟩ := @only_clashes_refused {} ⟨"model.json", oddModel⟩ _ parsed (by decide +kernel)
    have plain : ∀ row ∈ [("a", oddRule), ("b", Json.null), ("a", Json.bool true)], ¬ Entry.Clashes row.2 := by
      refine List.forall_mem_cons.2 ⟨?_, List.forall_mem_cons.2 ⟨nofun, List.forall_mem_singleton.2 nofun⟩⟩
      rw [oddRule, ← Entry.clash?_isSome_iff]
      decide +kernel
    obtain ⟨model, loaded⟩ := loads.2 ⟨_, rfl, plain⟩
    obtain ⟨_, same, rows⟩ := holds model loaded
    cases same
    obtain ⟨entry, decoded, found⟩ := rows.entries [("a", oddRule), ("b", .null)] "a" (.bool true) [] rfl (by simp)
    cases decoded
    exact ⟨model, loaded, found⟩
  · have parsed : (Reader.value Reader.maxNesting).readWhole clashingModel.toList =
        .ok (.object [("a", .object [("formule", .null), ("formula", .null)]), ("a", .bool true)]) := by
      simp only [clashingModel, String.reduceToList]
      rfl
    obtain ⟨loads, -, fails⟩ := @only_clashes_refused {} ⟨"model.json", clashingModel⟩ _ parsed (by decide +kernel)
    cases read : read {} ⟨"model.json", clashingModel⟩ with
    | ok model =>
        obtain ⟨_, same, apart⟩ := loads.1 ⟨model, read⟩
        cases same
        refine absurd ?_ (apart _ (.head _))
        rw [← Entry.clash?_isSome_iff]
        decide +kernel
    | error error =>
        obtain ⟨details, rfl⟩ := fails error read
        exact ⟨details, rfl⟩

/-! ## What is put on record -/

theorem load_eq_ok_iff {events : List Event} :
    load limits document = .ok (model, events) ↔
      read limits document = .ok model ∧ events = [.loaded document.source model.size] := by
  unfold load
  cases read limits document with
  | error error => exact ⟨nofun, nofun⟩
  | ok found =>
      constructor
      · intro h
        cases h
        exact ⟨rfl, rfl⟩
      · rintro ⟨same, rfl⟩
        cases same
        rfl

/-- A name is one entry, however many rows it has. -/
theorem HoldsRows.size_eq {rows : List (String × Json)} (h : HoldsRows model rows) :
    model.size = (rows.map Prod.fst).dedup.length := by
  have names : (model.toList.map Prod.fst).Perm (rows.map Prod.fst).dedup := by
    rw [List.perm_ext_iff_of_nodup (NameTable.nodup_names (.refl _)) (List.nodup_dedup _)]
    intro name
    rw [NameTable.mem_names, h.names, List.mem_dedup]
  rw [← names.length_eq, List.length_map, Std.ExtTreeMap.length_toList]

/-- A model that is loaded is on record once, with where it comes from and the number of different names in its
    document. -/
theorem load_records (parsed : (Reader.value Reader.maxNesting).readWhole document.text.toList = .ok value)
    (admitted : document.text.utf8ByteSize ≤ limits.maxModelBytes) {events : List Event}
    (h : load limits document = .ok (model, events)) :
    ∃ rows, value = .object rows ∧ HoldsRows model rows ∧
      events = [.loaded document.source (rows.map Prod.fst).dedup.length] := by
  obtain ⟨loaded, rfl⟩ := load_eq_ok_iff.1 h
  obtain ⟨rows, object, holds⟩ := exists_holdsRows parsed admitted loaded
  exact ⟨rows, object, holds, by rw [holds.size_eq]⟩

end Model

end CarbonSurvey
