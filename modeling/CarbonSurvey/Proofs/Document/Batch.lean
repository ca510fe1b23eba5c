import CarbonSurvey.Document.Situation
import CarbonSurvey.Proofs.Document.Decoding
import CarbonSurvey.Proofs.Json.Nesting

/-! # Situations one by one and all at once

The documents of some situations, joined by commas and put in brackets, are the document of the poll: it is decoded as
the situations that the documents are decoded as, in their order (`Situation.readMany_batch`). The bracket around them
takes up one level of nesting, so each of them has to leave that one free.
-/

namespace CarbonSurvey

open Json

namespace Json.Reader

variable {α β : Type} {item : Reader α} {text rest blank bound : List Char} {value : α}

/-- Wherever the text stands in a document, the reader takes it and gives the value, up to blanks on either side. -/
structure Delimited (item : Reader α) (text : List Char) (value : α) : Prop where
  opens : ∃ c after, text.dropWhile isSpace = c :: after ∧ c ≠ ']'
  taken : ∀ rest, ∃ blank, blank.dropWhile isSpace = [] ∧
    item ((text ++ rest).dropWhile isSpace) = .ok (value, blank ++ rest)

theorem dropWhile_blank_append (h : blank.dropWhile isSpace = []) (rest : List Char) :
    (blank ++ rest).dropWhile isSpace = rest.dropWhile isSpace := by
  rw [List.dropWhile_append, h]
  rfl

theorem nextItem_bracket (h : blank.dropWhile isSpace = []) (first : Bool) (rest : List Char) :
    nextItem first (blank ++ ']' :: rest) = .ok (false, ']' :: rest) := by
  have shown : (blank ++ ']' :: rest).dropWhile isSpace = ']' :: rest := dropWhile_blank_append h _
  exact bind_eq_ok_iff.2 ⟨some ']', ']' :: rest, upcoming_eq_ok_iff.2 ⟨shown, rfl⟩, rfl⟩

theorem Delimited.shown (h : Delimited item text value) (rest : List Char) :
    ∃ c after, (text ++ rest).dropWhile isSpace = c :: after ∧ c ≠ ']' := by
  obtain ⟨c, after, shown, other⟩ := h.opens
  exact ⟨c, after ++ rest, dropWhile_append_of_eq_cons shown rest, other⟩

theorem Delimited.nextItem_first (h : Delimited item text value) (rest : List Char) :
    nextItem true (text ++ rest) = .ok (true, (text ++ rest).dropWhile isSpace) := by
  obtain ⟨c, after, shown, other⟩ := h.shown rest
  refine bind_eq_ok_iff.2 ⟨some c, c :: after, upcoming_eq_ok_iff.2 ⟨shown, rfl⟩, ?_⟩
  rw [shown]
  simp [pure_apply]

theorem Delimited.nextItem_comma (h : Delimited item text value) (hblank : blank.dropWhile isSpace = [])
    (rest : List Char) :
    nextItem false (blank ++ ',' :: (text ++ rest)) = .ok (true, (text ++ rest).dropWhile isSpace) := by
  obtain ⟨c, after, shown, other⟩ := h.shown rest
  have comma : (blank ++ ',' :: (text ++ rest)).dropWhile isSpace = ',' :: (text ++ rest) :=
    dropWhile_blank_append hblank _
  refine bind_eq_ok_iff.2 ⟨some ',', ',' :: (text ++ rest), upcoming_eq_ok_iff.2 ⟨comma, rfl⟩, ?_⟩
  refine bind_eq_ok_iff.2 ⟨(), text ++ rest, rfl, ?_⟩
  refine bind_eq_ok_iff.2 ⟨some c, c :: after, upcoming_eq_ok_iff.2 ⟨shown, rfl⟩, ?_⟩
  rw [shown]
  simp [pure_apply]

variable {texts : List (List Char)} {values : List α}

/-- The items after the first, each behind a comma, up to the bracket. -/
theorem items_later (h : List.Forall₂ (Delimited item) texts values) (long : texts.length < bound.length)
    (hblank : blank.dropWhile isSpace = []) (rest : List Char) :
    items item bound false (blank ++ (texts.flatMap (',' :: ·) ++ ']' :: rest)) = .ok (values, ']' :: rest) := by
  induction h generalizing bound blank with
  | nil =>
      obtain ⟨mark, bound, rfl⟩ := List.exists_cons_of_length_pos (Nat.zero_lt_of_lt long)
      exact bind_eq_ok_iff.2 ⟨false, ']' :: rest, nextItem_bracket hblank false rest, rfl⟩
  | @cons text value texts values head _ ih =>
      obtain ⟨mark, bound, rfl⟩ := List.exists_cons_of_length_pos (Nat.zero_lt_of_lt long)
      obtain ⟨between, hbetween, read⟩ := head.taken (texts.flatMap (',' :: ·) ++ ']' :: rest)
      have next := head.nextItem_comma hblank (texts.flatMap (',' :: ·) ++ ']' :: rest)
      have others := ih (Nat.lt_of_succ_lt_succ long) hbetween
      rw [List.flatMap_cons, List.cons_append, List.cons_append, List.append_assoc]
      exact bind_eq_ok_iff.2 ⟨true, _, next, bind_eq_ok_iff.2 ⟨value, _, read,
        bind_eq_ok_iff.2 ⟨values, ']' :: rest, others, rfl⟩⟩⟩

theorem intercalate_comma (text : List Char) (texts : List (List Char)) :
    [','].intercalate (text :: texts) = text ++ texts.flatMap (',' :: ·) := by
  induction texts generalizing text with
  | nil => simp
  | cons next texts ih => simp [List.intercalate_cons_cons, ih]

/-- All items, from the first one on. -/
theorem items_all (h : List.Forall₂ (Delimited item) texts values) (long : texts.length < bound.length)
    (rest : List Char) :
    items item bound true ([','].intercalate texts ++ ']' :: rest) = .ok (values, ']' :: rest) := by
  obtain ⟨mark, bound, rfl⟩ := List.exists_cons_of_length_pos (Nat.zero_lt_of_lt long)
  cases h with
  | nil => exact bind_eq_ok_iff.2 ⟨false, ']' :: rest, @nextItem_bracket [] rfl true rest, rfl⟩
  | @cons text value texts values head tail =>
      obtain ⟨between, hbetween, read⟩ := head.taken (texts.flatMap (',' :: ·) ++ ']' :: rest)
      have others := items_later tail (Nat.lt_of_succ_lt_succ long) hbetween rest
      rw [intercalate_comma, List.append_assoc]
      exact bind_eq_ok_iff.2 ⟨true, _, head.nextItem_first _, bind_eq_ok_iff.2 ⟨value, _, read,
        bind_eq_ok_iff.2 ⟨values, ']' :: rest, others, rfl⟩⟩⟩

theorem length_le_length_later (texts : List (List Char)) : texts.length ≤ (texts.flatMap (',' :: ·)).length := by
  induction texts with
  | nil => exact Nat.le_refl 0
  | cons text texts ih =>
      rw [List.flatMap_cons, List.length_append, List.length_cons, List.length_cons]
      omega

theorem length_le_length_intercalate (h : List.Forall₂ (Delimited item) texts values) :
    texts.length ≤ ([','].intercalate texts).length := by
  cases h with
  | nil => exact Nat.zero_le _
  | @cons text value texts values head _ =>
      obtain ⟨c, after, shown, -⟩ := head.opens
      have filled : 0 < text.length := by
        refine List.length_pos_iff.2 ?_
        rintro rfl
        cases shown
      have others := length_le_length_later texts
      rw [intercalate_comma, List.length_append, List.length_cons]
      omega

/-- A list of delimited items is read item by item. -/
theorem listOf_intercalate (h : List.Forall₂ (Delimited item) texts values) (rest : List Char) :
    listOf item ('[' :: ([','].intercalate texts ++ ']' :: rest)) = .ok (values, rest) := by
  have long : texts.length < ([','].intercalate texts ++ ']' :: rest).length := by
    have items := length_le_length_intercalate h
    rw [List.length_append, List.length_cons]
    omega
  have shown : upcoming ('[' :: ([','].intercalate texts ++ ']' :: rest)) = .ok (some '[', _) :=
    upcoming_eq_ok_iff.2 ⟨rfl, rfl⟩
  refine bind_eq_ok_iff.2 ⟨some '[', _, shown, bind_eq_ok_iff.2 ⟨(), _, rfl, ?_⟩⟩
  exact enclosed_eq_ok_iff.2 ⟨']' :: rest, items_all h long rest, listEnd_eq_ok_iff.2 rfl⟩

end Json.Reader

/-- The document is a JSON value that leaves room for a bracket around it. -/
def Document.Shallow (document : Document) : Prop :=
  ∃ value, (Reader.value Reader.maxNesting).readWhole document.text.toList = .ok value ∧
    value.nesting < Reader.maxNesting

namespace Situation

variable {limits : Limits} {document : Document} {situation : Situation}

/-- What a document that is this value is decoded as, if it is decoded. -/
def ofJson? : Json → Option Situation :=
  tableOf? fun answer => some (Answer.ofJson answer)

theorem decodes_reader (room : Nat) : Reader.Decodes (reader room) (Reader.value (room + 1)) ofJson? := by
  refine decodes_tableOf? fun text => ?_
  rw [Reader.map_eq_bind, Reader.toOption_bind]
  cases (Reader.value room text).toOption <;> rfl

theorem decode_of_read (h : read limits document = .ok situation) :
    document.decode .situation (reader (Reader.maxNesting - 1)) = .ok situation := by
  unfold read at h
  cases sized : document.checkSize "max_situation_bytes" limits.maxSituationBytes with
  | ok _ =>
      rw [sized] at h
      exact h
  | error error =>
      rw [sized] at h
      cases h

theorem decode_value_iff {value : Json}
    (parsed : (Reader.value Reader.maxNesting).readWhole document.text.toList = .ok value) :
    document.decode .situation (reader (Reader.maxNesting - 1)) = .ok situation ↔ ofJson? value = some situation :=
  Document.decode_value_iff (decodes_reader (Reader.maxNesting - 1)) parsed .situation

theorem read_of_decode (h : document.decode .situation (reader (Reader.maxNesting - 1)) = .ok situation)
    (admitted : document.text.utf8ByteSize ≤ limits.maxSituationBytes) : read limits document = .ok situation := by
  rw [read, Document.checkSize_of_le admitted]
  exact h

/-- A situation that leaves room for a bracket is decoded the same wherever it stands in a list. -/
theorem delimited_of_read (h : read limits document = .ok situation) (shallow : document.Shallow) :
    Reader.Delimited (reader (Reader.maxNesting - 2)) document.text.toList situation := by
  obtain ⟨value, parsed, fits⟩ := shallow
  have decoded := (decode_value_iff parsed).1 (decode_of_read h)
  obtain ⟨rows, rfl, -⟩ := tableOf?_eq_some_iff.1 decoded
  obtain ⟨blank, taken, hblank⟩ := Reader.readWhole_eq_ok_iff.1 parsed
  refine ⟨Reader.exists_cons_of_value taken, fun rest => ⟨blank, hblank, ?_⟩⟩
  have stands := Reader.value_append taken (Nat.le_of_lt_succ fits) (.inr (Nat.succ_pos _)) rest
  rw [← Reader.value_dropWhile] at stands
  exact (decodes_reader (Reader.maxNesting - 2)).eq_ok stands decoded

/-- The document of a poll, from the documents of its situations. -/
def batch (documents : List Document) : String :=
  "[" ++ ",".intercalate (documents.map Document.text) ++ "]"

theorem toList_batch (documents : List Document) : (batch documents).toList =
    '[' :: ([','].intercalate (documents.map fun document => document.text.toList) ++ [']']) := by
  simp [batch, String.toList_intercalate, Function.comp_def]

theorem delimited_of_mapM {documents : List Document} {situations : List Situation}
    (each : documents.mapM (read limits) = .ok situations) (shallow : ∀ document ∈ documents, document.Shallow) :
    List.Forall₂ (Reader.Delimited (reader (Reader.maxNesting - 2)))
      (documents.map fun document => document.text.toList) situations := by
  induction documents generalizing situations with
  | nil =>
      cases each
      exact .nil
  | cons document documents ih =>
      rw [List.mapM_cons] at each
      obtain ⟨shallow_first, shallow_others⟩ := List.forall_mem_cons.1 shallow
      cases first : read limits document with
      | error error =>
          rw [first] at each
          cases each
      | ok situation =>
          cases others : documents.mapM (read limits) with
          | error error =>
              rw [first, others] at each
              cases each
          | ok later =>
              rw [first, others] at each
              cases each
              exact .cons (delimited_of_read first shallow_first) (ih others shallow_others)

/-- Situations whose documents leave room for a bracket are decoded all at once as they are one by one. -/
theorem readMany_batch {source : String} {documents : List Document} {situations : List Situation}
    (each : documents.mapM (read limits) = .ok situations) (shallow : ∀ document ∈ documents, document.Shallow)
    (admitted : (batch documents).utf8ByteSize ≤ limits.maxBatchBytes) :
    readMany limits ⟨source, batch documents⟩ = .ok situations := by
  have all := Reader.listOf_intercalate (delimited_of_mapM each shallow) []
  rw [← toList_batch] at all
  have sized : readMany limits ⟨source, batch documents⟩ =
      Document.decode .situation (Reader.listOf (reader (Reader.maxNesting - 2))) ⟨source, batch documents⟩ := by
    rw [readMany, Document.checkSize_of_le admitted]
    rfl
  rw [sized, Document.decode_eq_ok_iff]
  exact congrArg Except.toOption (Reader.readWhole_eq_ok_iff.2 ⟨[], all, rfl⟩)

/-- A participant who is unanswered first and then gives a number. -/
def repeated : Document :=
  ⟨"first.json", " \x7b\"a\":[5],\"a\":5\x7d "⟩

/-- A participant whose answer has brackets and a comma in it. -/
def bracketed : Document :=
  ⟨"second.json", "\x7b\"b\":\"\x7d,]\"\x7d"⟩

theorem repeated_value : (Reader.value Reader.maxNesting).readWhole repeated.text.toList =
    .ok (.object [("a", .list [.number (.whole 5)]), ("a", .number (.whole 5))]) := by
  simp only [repeated, String.reduceToList]
  rfl

theorem bracketed_value : (Reader.value Reader.maxNesting).readWhole bracketed.text.toList =
    .ok (.object [("b", .text "\x7d,]")]) := by
  simp only [bracketed, String.reduceToList]
  rfl

theorem couple_read_at_once :
    readMany {} ⟨"poll.json", "[ \x7b\"a\":[5],\"a\":5\x7d ,\x7b\"b\":\"\x7d,]\"\x7d]"⟩ =
      .ok [NameTable.ofRows [("a", .unanswered), ("a", .number (.ofInt 5))], NameTable.ofRows [("b", .text "\x7d,]")]] := by
  have first : read {} repeated = .ok (NameTable.ofRows [("a", .unanswered), ("a", .number (.ofInt 5))]) :=
    read_of_decode ((decode_value_iff repeated_value).2 rfl) (by decide +kernel)
  have second : read {} bracketed = .ok (NameTable.ofRows [("b", .text "\x7d,]")]) :=
    read_of_decode ((decode_value_iff bracketed_value).2 rfl) (by decide +kernel)
  have each : [repeated, bracketed].mapM (read {}) =
      .ok [NameTable.ofRows [("a", .unanswered), ("a", .number (.ofInt 5))], NameTable.ofRows [("b", .text "\x7d,]")]] := by
    rw [List.mapM_cons, List.mapM_cons, first, second]
    rfl
  have shallow : ∀ document ∈ [repeated, bracketed], document.Shallow :=
    List.forall_mem_cons.2 ⟨⟨_, repeated_value, by decide⟩, List.forall_mem_singleton.2 ⟨_, bracketed_value, by decide⟩⟩
  have joined : batch [repeated, bracketed] = "[ \x7b\"a\":[5],\"a\":5\x7d ,\x7b\"b\":\"\x7d,]\"\x7d]" := by decide +kernel
  have all := @readMany_batch {} "poll.json" _ _ each shallow (by decide +kernel)
  exact joined ▸ all

end Situation

end CarbonSurvey
