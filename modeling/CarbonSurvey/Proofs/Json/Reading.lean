import CarbonSurvey.Json.Decoder
import CarbonSurvey.Proofs.Json.Quoted

/-! # Reading what is written

`Reads reader text value?` says what a reader makes of a written text wherever it stands in a document: before
a comma, a bracket, a brace or nothing at all it takes the whole text and gives the value, or refuses it. A list
or an object is read row by row, so what is known of its rows carries over to it (`Reads.list`, `Reads.object`).
-/

namespace CarbonSurvey.Json.Reader

variable {α β : Type}

theorem toOption_bind (reader : Reader α) (next : α → Reader β) (text : List Char) :
    ((reader >>= next) text).toOption =
      (reader text).toOption.bind fun result => (next result.1 result.2).toOption := by
  rw [bind_apply]
  cases reader text <;> rfl

theorem toOption_readWhole (reader : Reader α) (text : List Char) :
    (readWhole reader text).toOption =
      (reader text).toOption.bind fun taken => (finish taken.2).toOption.map fun _ => taken.1 := by
  unfold readWhole
  rw [bind_apply]
  cases reader text with
  | error fault => rfl
  | ok taken => cases ended : finish taken.2 <;> simp [bind_apply, pure_apply, ended, Except.toOption]

/-- What can come after a value in a document: nothing, or what separates or ends rows. -/
def Follows (rest : List Char) : Prop :=
  ∀ c ∈ rest.head?, c = ',' ∨ c = ']' ∨ c = '\x7d'

theorem Follows.nil : Follows [] :=
  nofun

theorem Follows.comma (rest : List Char) : Follows (',' :: rest) := by
  intro c hc
  cases hc
  exact .inl rfl

theorem Follows.bracket (rest : List Char) : Follows (']' :: rest) := by
  intro c hc
  cases hc
  exact .inr (.inl rfl)

theorem Follows.brace (rest : List Char) : Follows ('\x7d' :: rest) := by
  intro c hc
  cases hc
  exact .inr (.inr rfl)

/-- Before anything that can come after a value, the reader takes the text and gives the value; without a value it
    refuses the text. -/
def Reads (reader : Reader α) (text : List Char) (value? : Option α) : Prop :=
  ∀ rest, Follows rest → (reader (text ++ rest)).toOption = value?.map fun value => (value, rest)

variable {reader : Reader α} {text rest : List Char} {value? : Option α}

theorem Reads.map (h : Reads reader text value?) (f : α → β) : Reads (f <$> reader) text (value?.map f) := by
  intro rest hrest
  rw [map_eq_bind, toOption_bind, h rest hrest]
  cases value? <;> rfl

/-- A text on its own is read as it is in a document. -/
theorem Reads.readWhole (h : Reads reader text value?) : (readWhole reader text).toOption = value? := by
  have alone := h [] .nil
  rw [List.append_nil] at alone
  rw [toOption_readWhole, alone]
  cases value? <;> rfl

/-- The place of a fault aside, the inside is read and then the end. -/
theorem toOption_enclosed (finish : Reader Unit) (inside : Reader α) (text : List Char) :
    (enclosed finish inside text).toOption = (inside text).toOption.bind fun taken =>
      (finish taken.2).toOption.map fun ended => (taken.1, ended.2) := by
  unfold enclosed
  cases inside text with
  | ok taken => cases ended : finish taken.2 <;> simp [ended, Except.toOption]
  | error fault =>
      dsimp only
      split
      · split <;> rfl
      · rfl

theorem upcoming_cons {c : Char} (h : isSpace c = false) (rest : List Char) :
    upcoming (c :: rest) = .ok (some c, c :: rest) := by
  simp [upcoming, h]

/-- What stands before a row of a list or an object. -/
def separator : Bool → List Char
  | true => []
  | false => [',']

/-! ## Lists -/

section List

variable {item : Reader α}

/-- An item of a list starts with neither a space nor the bracket that ends the list. -/
def Opens (text : List Char) : Prop :=
  ∃ c ∈ text.head?, isSpace c = false ∧ c ≠ ']'

theorem Opens.length_pos (h : Opens text) : 0 < text.length := by
  obtain ⟨c, head, _⟩ := h
  exact List.length_pos_iff.2 (by rintro rfl; cases head)

theorem nextItem_separator (h : Opens text) (first : Bool) (rest : List Char) :
    nextItem first (separator first ++ (text ++ rest)) = .ok (true, text ++ rest) := by
  obtain ⟨c, head, visible, bracket⟩ := h
  obtain ⟨after, rfl⟩ := List.head?_eq_some_iff.1 head
  have comma : isSpace ',' = false := by decide
  cases first with
  | true => simp [nextItem, separator, bind_apply, upcoming_cons visible, pure_apply]
  | false => simp [nextItem, separator, bind_apply, upcoming_cons comma, upcoming_cons visible, pure_apply, advance]

/-- One item is read, and then the others. -/
theorem items_separator (opens : Opens text) (reads : Reads item text value?) (follows : Follows rest)
    (first : Bool) (mark : Char) (bound : List Char) :
    (items item (mark :: bound) first (separator first ++ (text ++ rest))).toOption =
      value?.bind fun value => (items item bound false rest).toOption.map (Prod.map (value :: ·) id) := by
  rw [items, bind_of_ok (nextItem_separator opens first rest), if_pos rfl, toOption_bind, reads rest follows]
  cases value? with
  | none => rfl
  | some value =>
      simp only [Option.map_some, Option.bind_some, toOption_bind]
      cases (items item bound false rest).toOption <;> rfl

variable {rows : List β} {toJson : β → Json} {read? : β → Option α}

theorem follows_writeItems (items : List Json) (rest : List Char) : Follows (writeItems items ++ rest) := by
  cases items with
  | nil => exact .bracket _
  | cons item items =>
      rw [writeItems, List.append_assoc]
      exact .comma _

theorem length_lt_length_writeItems (items : List Json) : items.length < (writeItems items).length := by
  induction items with
  | nil => exact Nat.one_pos
  | cons item items ih =>
      simp only [writeItems, List.length_append, List.length_cons]
      omega

/-- The items of a list that has one at least, from the first or from a later one on. -/
theorem items_write {row : β} (opens : ∀ other ∈ row :: rows, Opens (toJson other).write)
    (reads : ∀ other ∈ row :: rows, Reads item (toJson other).write (read? other)) {bound : List Char}
    (h : (row :: rows).length < bound.length) (first : Bool) (rest : List Char) :
    (items item bound first
        (separator first ++ ((toJson row).write ++ (writeItems (rows.map toJson) ++ rest)))).toOption =
      ((row :: rows).mapM read?).map fun values => (values, ']' :: rest) := by
  induction rows generalizing row bound first with
  | nil =>
      obtain ⟨_, bound, rfl⟩ := List.exists_cons_of_length_pos (Nat.zero_lt_of_lt h)
      obtain ⟨mark, bound, rfl⟩ := List.exists_cons_of_length_pos (Nat.lt_of_succ_lt_succ h)
      rw [items_separator (opens row (.head _)) (reads row (.head _)) (follows_writeItems _ _), List.mapM_cons]
      cases read? row <;> rfl
  | cons next rows ih =>
      obtain ⟨mark, bound, rfl⟩ := List.exists_cons_of_length_pos (Nat.zero_lt_of_lt h)
      have others := ih (fun other hother => opens other (.tail _ hother))
        (fun other hother => reads other (.tail _ hother)) (Nat.lt_of_succ_lt_succ h) false
      have written : writeItems ((next :: rows).map toJson) ++ rest =
          separator false ++ ((toJson next).write ++ (writeItems (rows.map toJson) ++ rest)) := by
        simp [writeItems, separator]
      have gathered : (row :: next :: rows).mapM read? =
          (read? row).bind fun value => ((next :: rows).mapM read?).bind fun values => some (value :: values) :=
        List.mapM_cons
      rw [items_separator (opens row (.head _)) (reads row (.head _)) (follows_writeItems _ _), written, others,
        gathered]
      cases read? row with
      | none => rfl
      | some value => cases (next :: rows).mapM read? <;> rfl

/-- A list reads as the list of what its items read as. -/
theorem Reads.list (opens : ∀ row ∈ rows, Opens (toJson row).write)
    (reads : ∀ row ∈ rows, Reads item (toJson row).write (read? row)) :
    Reads (listOf item) (Json.list (rows.map toJson)).write (rows.mapM read?) := by
  intro rest _
  have inside : ∀ after, (listOf item ('[' :: after)).toOption = (items item after true after).toOption.bind
      fun taken => (listEnd taken.2).toOption.map fun ended => (taken.1, ended.2) := fun after =>
    toOption_enclosed listEnd (fun after => items item after true after) after
  cases rows with
  | nil => rfl
  | cons row rows =>
      have written : (Json.list ((row :: rows).map toJson)).write ++ rest =
          '[' :: ((toJson row).write ++ (writeItems (rows.map toJson) ++ rest)) := by
        simp [write]
      have long : (row :: rows).length <
          ((toJson row).write ++ (writeItems (rows.map toJson) ++ rest)).length := by
        have opening := (opens row (.head _)).length_pos
        have others := length_lt_length_writeItems (rows.map toJson)
        simp only [List.length_append, List.length_cons, List.length_map] at others ⊢
        omega
      have all := items_write opens reads long true rest
      rw [separator, List.nil_append] at all
      rw [written, inside, all]
      cases (row :: rows).mapM read? <;> rfl

end List

/-! ## Objects -/

section Object

variable {member : Reader α} {rows : List (String × β)} {toJson : β → Json} {read? : β → Option α}

theorem nextKey_separator (first : Bool) (rest : List Char) :
    nextKey first (separator first ++ '"' :: rest) = .ok (true, rest) := by
  cases first <;> rfl

theorem colon_cons (rest : List Char) : colon (':' :: rest) = .ok ((), rest) :=
  rfl

/-- The text of a member: its name in quotes, a colon and its value. -/
def memberText (name : String) (text : List Char) : List Char :=
  quote name ++ ':' :: text

theorem memberText_append (name : String) (text rest : List Char) :
    memberText name text ++ rest = '"' :: (writeChars name.toList ++ '"' :: ':' :: (text ++ rest)) := by
  simp [memberText, quote]

/-- One member is read, and then the others. -/
theorem members_separator (name : String) (reads : Reads member text value?) (follows : Follows rest) (first : Bool)
    (mark : Char) (bound : List Char) :
    (members member (mark :: bound) first (separator first ++ (memberText name text ++ rest))).toOption =
      value?.bind fun value =>
        (members member bound false rest).toOption.map (Prod.map ((name, value) :: ·) id) := by
  rw [memberText_append, members, bind_of_ok (nextKey_separator first _), if_pos rfl,
    bind_of_ok (quoted_writeChars name _), bind_of_ok (colon_cons _), toOption_bind, reads rest follows]
  cases value? with
  | none => rfl
  | some value =>
      simp only [Option.map_some, Option.bind_some, toOption_bind]
      cases (members member bound false rest).toOption <;> rfl

theorem follows_writeMembers (members : List (String × Json)) (rest : List Char) :
    Follows (writeMembers members ++ rest) := by
  cases members with
  | nil => exact .brace _
  | cons member members =>
      rw [writeMembers, List.append_assoc, List.append_assoc]
      exact .comma _

theorem length_lt_length_writeMembers (members : List (String × Json)) :
    members.length < (writeMembers members).length := by
  induction members with
  | nil => exact Nat.one_pos
  | cons member members ih =>
      simp only [writeMembers, List.length_append, List.length_cons]
      omega

/-- A row as a member of an object. -/
def memberOf (toJson : β → Json) (row : String × β) : String × Json :=
  (row.1, toJson row.2)

/-- What a row reads as, with its name. -/
def readRow (read? : β → Option α) (row : String × β) : Option (String × α) :=
  (read? row.2).map fun value => (row.1, value)

theorem mapM_readRow_cons (row : String × β) (rows : List (String × β)) :
    (row :: rows).mapM (readRow read?) = (read? row.2).bind fun value =>
      (rows.mapM (readRow read?)).bind fun values => some ((row.1, value) :: values) := by
  have gathered : (row :: rows).mapM (readRow read?) = (readRow read? row).bind fun value =>
      (rows.mapM (readRow read?)).bind fun values => some (value :: values) := List.mapM_cons
  rw [gathered, readRow]
  cases read? row.2 <;> rfl

/-- All rows are read if each of them is. -/
theorem exists_mapM_readRow_iff :
    (∃ values, rows.mapM (readRow read?) = some values) ↔ ∀ row ∈ rows, ∃ value, read? row.2 = some value := by
  induction rows with
  | nil => simp
  | cons row rows ih =>
      rw [List.forall_mem_cons, ← ih, mapM_readRow_cons]
      cases read? row.2 <;> cases rows.mapM (readRow read?) <;> simp

/-- Rows that are read keep their names, each with what its value was read as. -/
theorem mapM_readRow_spec {values : List (String × α)} (h : rows.mapM (readRow read?) = some values) :
    values.map Prod.fst = rows.map Prod.fst ∧
      ∀ name value, (name, value) ∈ values ↔ ∃ row, (name, row) ∈ rows ∧ read? row = some value := by
  induction rows generalizing values with
  | nil =>
      cases h
      simp
  | cons row rows ih =>
      rw [mapM_readRow_cons] at h
      obtain ⟨value, hvalue, h⟩ := Option.bind_eq_some_iff.1 h
      obtain ⟨others, hothers, h⟩ := Option.bind_eq_some_iff.1 h
      cases h
      obtain ⟨names, mem⟩ := ih hothers
      refine ⟨by simp [names], fun name found => ?_⟩
      rw [List.mem_cons, mem]
      constructor
      · rintro (same | ⟨other, hmem, hread⟩)
        · cases same
          exact ⟨row.2, .head _, hvalue⟩
        · exact ⟨other, .tail _ hmem, hread⟩
      · rintro ⟨other, hmem, hread⟩
        rcases List.mem_cons.1 hmem with same | hmem
        · subst same
          rw [hvalue] at hread
          exact .inl (by rw [Option.some.inj hread])
        · exact .inr ⟨other, hmem, hread⟩

/-- The members of an object that has one at least, from the first or from a later one on. -/
theorem members_write {row : String × β}
    (reads : ∀ other ∈ row :: rows, Reads member (toJson other.2).write (read? other.2)) {bound : List Char}
    (h : (row :: rows).length < bound.length) (first : Bool) (rest : List Char) :
    (members member bound first (separator first ++
        (memberText row.1 (toJson row.2).write ++ (writeMembers (rows.map (memberOf toJson)) ++ rest)))).toOption =
      ((row :: rows).mapM (readRow read?)).map fun values => (values, '\x7d' :: rest) := by
  induction rows generalizing row bound first with
  | nil =>
      obtain ⟨_, bound, rfl⟩ := List.exists_cons_of_length_pos (Nat.zero_lt_of_lt h)
      obtain ⟨mark, bound, rfl⟩ := List.exists_cons_of_length_pos (Nat.lt_of_succ_lt_succ h)
      rw [members_separator row.1 (reads row (.head _)) (follows_writeMembers _ _), mapM_readRow_cons]
      cases read? row.2 <;> rfl
  | cons next rows ih =>
      obtain ⟨mark, bound, rfl⟩ := List.exists_cons_of_length_pos (Nat.zero_lt_of_lt h)
      have others := ih (fun other hother => reads other (.tail _ hother)) (Nat.lt_of_succ_lt_succ h) false
      have written : writeMembers ((next :: rows).map (memberOf toJson)) ++ rest = separator false ++
          (memberText next.1 (toJson next.2).write ++ (writeMembers (rows.map (memberOf toJson)) ++ rest)) := by
        simp [writeMembers, separator, memberOf, memberText]
      rw [members_separator row.1 (reads row (.head _)) (follows_writeMembers _ _), written, others,
        mapM_readRow_cons row]
      cases read? row.2 with
      | none => rfl
      | some value => cases (next :: rows).mapM (readRow read?) <;> rfl

/-- An object reads as the rows of what its values read as, each under its own name. -/
theorem Reads.object (reads : ∀ row ∈ rows, Reads member (toJson row.2).write (read? row.2)) :
    Reads (objectOf member) (Json.object (rows.map (memberOf toJson))).write (rows.mapM (readRow read?)) := by
  intro rest _
  have inside : ∀ after, (objectOf member ('\x7b' :: after)).toOption =
      (members member after true after).toOption.bind
        fun taken => (objectEnd taken.2).toOption.map fun ended => (taken.1, ended.2) := fun after =>
    toOption_enclosed objectEnd (fun after => members member after true after) after
  cases rows with
  | nil => rfl
  | cons row rows =>
      have written : (Json.object ((row :: rows).map (memberOf toJson))).write ++ rest = '\x7b' ::
          (memberText row.1 (toJson row.2).write ++ (writeMembers (rows.map (memberOf toJson)) ++ rest)) := by
        simp [write, memberOf, memberText]
      have long : (row :: rows).length <
          (memberText row.1 (toJson row.2).write ++ (writeMembers (rows.map (memberOf toJson)) ++ rest)).length := by
        have others := length_lt_length_writeMembers (rows.map (memberOf toJson))
        simp only [memberText, List.length_append, List.length_cons, List.length_map] at others ⊢
        omega
      have all := members_write reads long true rest
      rw [separator, List.nil_append] at all
      rw [written, inside, all]
      cases (row :: rows).mapM (readRow read?) <;> rfl

end Object

/-! ## Values without parts -/

theorem text_write (text : String) (rest : List Char) :
    Reader.text ((Json.text text).write ++ rest) = .ok (text, rest) := by
  have written : (Json.text text).write ++ rest = '"' :: (writeChars text.toList ++ '"' :: rest) := by
    simp [write, quote]
  rw [written]
  exact quoted_writeChars text rest

/-- A value that shows no bracket is read as one without parts. -/
theorem value_eq_scalar {c : Char} (visible : isSpace c = false) (list : c ≠ '[') (object : c ≠ '\x7b') (room : Nat)
    (rest : List Char) : value room (c :: rest) = scalar (c :: rest) := by
  have shown : ∀ deeper, valueOr deeper (c :: rest) = scalar (c :: rest) := by
    intro deeper
    simp [valueOr, bind_apply, upcoming_cons visible, list, object]
  cases room <;> exact shown _

theorem reads_value_text (room : Nat) (text : String) :
    Reads (value room) (Json.text text).write (some (.text text)) := by
  intro rest _
  have written : (Json.text text).write ++ rest = '"' :: (writeChars text.toList ++ '"' :: rest) := by
    simp [write, quote]
  have opened : scalar ('"' :: (writeChars text.toList ++ '"' :: rest)) =
      (Json.text <$> quoted : Reader Json) (writeChars text.toList ++ '"' :: rest) := rfl
  rw [written, value_eq_scalar (by decide) (by decide) (by decide), opened, map_eq_bind,
    bind_of_ok (quoted_writeChars text rest)]
  rfl

theorem reads_value_null (room : Nat) : Reads (value room) Json.null.write (some .null) := by
  intro rest _
  rw [write, List.cons_append, value_eq_scalar (by decide) (by decide) (by decide)]
  rfl

end CarbonSurvey.Json.Reader
