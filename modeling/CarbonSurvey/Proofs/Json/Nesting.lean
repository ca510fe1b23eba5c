import CarbonSurvey.Proofs.Json.Decoding
import CarbonSurvey.Proofs.Json.Steady

/-! # Values in other places

A value that was read from the front of a text is read the same from the front of a longer one, and with any room that
its nesting fits in (`value_append`). A list or an object ends with its bracket, so it does not matter how the longer
text goes on; only a value without parts has to have something behind it to begin with.
-/

namespace CarbonSurvey.Json

mutual

/-- How many lists and objects are open at once in a value, at most. -/
def nesting : Json → Nat
  | .list items => nestingOfItems items + 1
  | .object members => nestingOfMembers members + 1
  | _ => 0

def nestingOfItems : List Json → Nat
  | [] => 0
  | item :: items => max item.nesting (nestingOfItems items)

def nestingOfMembers : List (String × Json) → Nat
  | [] => 0
  | (_, value) :: members => max value.nesting (nestingOfMembers members)

end

theorem nesting_le_of_mem_items {item : Json} {items : List Json} (h : item ∈ items) :
    item.nesting ≤ nestingOfItems items := by
  induction h with
  | head items => exact Nat.le_max_left _ _
  | tail other _ ih => exact Nat.le_trans ih (Nat.le_max_right _ _)

theorem nesting_le_of_mem_members {row : String × Json} {members : List (String × Json)} (h : row ∈ members) :
    row.2.nesting ≤ nestingOfMembers members := by
  induction h with
  | head members => exact Nat.le_max_left _ _
  | tail other _ ih => exact Nat.le_trans ih (Nat.le_max_right _ _)

namespace Reader

variable {α : Type} {text rest more bound longer : List Char} {first : Bool}

theorem enclosed_eq_ok_iff {finish : Reader Unit} {inside : Reader α} {value : α} :
    enclosed finish inside text = .ok (value, rest) ↔
      ∃ middle, inside text = .ok (value, middle) ∧ finish middle = .ok ((), rest) := by
  unfold enclosed
  cases inside text with
  | ok taken =>
      obtain ⟨found, middle⟩ := taken
      have ends : (∃ after, Except.ok (ε := Fault) (found, middle) = .ok (value, after) ∧ finish after = .ok ((), rest)) ↔
          found = value ∧ finish middle = .ok ((), rest) := by
        simp
      rw [ends]
      cases ended : finish middle with
      | ok last => simp [ended, Prod.ext_iff]
      | error fault => simp [ended]
  | error fault =>
      dsimp only
      split
      · split <;> simp
      · simp

/-- A list ends only at its bracket. -/
theorem head?_of_nextItem (h : nextItem first text = .ok (false, rest)) : rest.head? = some ']' := by
  obtain ⟨shown, middle, read, h⟩ := bind_eq_ok_iff.1 h
  obtain ⟨-, head⟩ := upcoming_eq_ok_iff.1 read
  split at h
  · cases h
  · cases h
    exact head
  · split at h
    · cases h
    · split at h
      · obtain ⟨_, after, _, h⟩ := bind_eq_ok_iff.1 h
        obtain ⟨next, last, _, h⟩ := bind_eq_ok_iff.1 h
        split at h <;> cases h
      · cases h

/-- An object ends only at its brace. -/
theorem head?_of_nextKey (h : nextKey first text = .ok (false, rest)) : rest.head? = some '\x7d' := by
  obtain ⟨shown, middle, read, h⟩ := bind_eq_ok_iff.1 h
  obtain ⟨-, head⟩ := upcoming_eq_ok_iff.1 read
  split at h
  · cases h
  · cases h
    exact head
  · split at h
    · split at h <;> cases h
    · split at h
      · obtain ⟨_, after, _, h⟩ := bind_eq_ok_iff.1 h
        obtain ⟨next, last, _, h⟩ := bind_eq_ok_iff.1 h
        split at h <;> cases h
      · cases h

theorem ne_nil_of_head? {c : Char} (h : rest.head? = some c) : rest ≠ [] := by
  rintro rfl
  cases h

/-- The items of a list are read the same in a longer text, by any reader that reads each of them the same. -/
theorem items_append {item other : Reader α} {values : List α}
    (nil : ∀ {value rest}, item [] = .ok (value, rest) → rest = [])
    (same : ∀ value ∈ values, ∀ {text rest}, item text = .ok (value, rest) → rest ≠ [] →
      other (text ++ more) = .ok (value, rest ++ more))
    (h : items item bound first text = .ok (values, rest)) (long : bound.length ≤ longer.length) :
    items other longer first (text ++ more) = .ok (values, rest ++ more) := by
  induction bound generalizing text first values longer with
  | nil => cases h
  | cons mark bound ih =>
      obtain ⟨mark', longer, rfl⟩ := List.exists_cons_of_length_pos (Nat.lt_of_lt_of_le (Nat.succ_pos _) long)
      obtain ⟨next, middle, start, h⟩ := bind_eq_ok_iff.1 h
      cases next with
      | false =>
          cases h
          have left := ne_nil_of_head? (head?_of_nextItem start)
          exact bind_eq_ok_iff.2 ⟨false, rest ++ more, (Steady.nextItem first).append start left more, rfl⟩
      | true =>
          obtain ⟨value, after, read, h⟩ := bind_eq_ok_iff.1 h
          obtain ⟨others, _, last, h⟩ := bind_eq_ok_iff.1 h
          cases h
          have after_ne : after ≠ [] := by
            rintro rfl
            cases bound <;> cases last
          have middle_ne : middle ≠ [] := by
            rintro rfl
            exact after_ne (nil read)
          have more_read := same value (.head _) read after_ne
          have more_last := ih (fun value h => same value (.tail _ h)) last (Nat.le_of_succ_le_succ long)
          exact bind_eq_ok_iff.2 ⟨true, middle ++ more, (Steady.nextItem first).append start middle_ne more,
            bind_eq_ok_iff.2 ⟨value, after ++ more, more_read, bind_eq_ok_iff.2 ⟨others, rest ++ more, more_last, rfl⟩⟩⟩

/-- So are the members of an object. -/
theorem members_append {member other : Reader α} {rows : List (String × α)}
    (nil : ∀ {value rest}, member [] = .ok (value, rest) → rest = [])
    (same : ∀ row ∈ rows, ∀ {text rest}, member text = .ok (row.2, rest) → rest ≠ [] →
      other (text ++ more) = .ok (row.2, rest ++ more))
    (h : members member bound first text = .ok (rows, rest)) (long : bound.length ≤ longer.length) :
    members other longer first (text ++ more) = .ok (rows, rest ++ more) := by
  induction bound generalizing text first rows longer with
  | nil => cases h
  | cons mark bound ih =>
      obtain ⟨mark', longer, rfl⟩ := List.exists_cons_of_length_pos (Nat.lt_of_lt_of_le (Nat.succ_pos _) long)
      obtain ⟨next, named, start, h⟩ := bind_eq_ok_iff.1 h
      cases next with
      | false =>
          cases h
          have left := ne_nil_of_head? (head?_of_nextKey start)
          exact bind_eq_ok_iff.2 ⟨false, rest ++ more, (Steady.nextKey first).append start left more, rfl⟩
      | true =>
          obtain ⟨name, marked, key, h⟩ := bind_eq_ok_iff.1 h
          obtain ⟨_, valued, mark, h⟩ := bind_eq_ok_iff.1 h
          obtain ⟨value, after, read, h⟩ := bind_eq_ok_iff.1 h
          obtain ⟨others, _, last, h⟩ := bind_eq_ok_iff.1 h
          cases h
          have after_ne : after ≠ [] := by
            rintro rfl
            cases bound <;> cases last
          have valued_ne : valued ≠ [] := by
            rintro rfl
            exact after_ne (nil read)
          have marked_ne := Steady.colon.ne_nil mark valued_ne
          have named_ne := Steady.quoted.ne_nil key marked_ne
          have more_read := same (name, value) (.head _) read after_ne
          have more_last := ih (fun row h => same row (.tail _ h)) last (Nat.le_of_succ_le_succ long)
          exact bind_eq_ok_iff.2 ⟨true, named ++ more, (Steady.nextKey first).append start named_ne more,
            bind_eq_ok_iff.2 ⟨name, marked ++ more, Steady.quoted.append key marked_ne more,
            bind_eq_ok_iff.2 ⟨_, valued ++ more, Steady.colon.append mark valued_ne more,
            bind_eq_ok_iff.2 ⟨value, after ++ more, more_read,
            bind_eq_ok_iff.2 ⟨others, rest ++ more, more_last, rfl⟩⟩⟩⟩⟩

theorem dropWhile_append_of_eq_cons {c : Char} (h : text.dropWhile isSpace = c :: rest) (more : List Char) :
    (text ++ more).dropWhile isSpace = c :: (rest ++ more) := by
  rw [Steady.dropWhile_append (by rw [h]; exact List.cons_ne_nil _ _), h, List.cons_append]

theorem list_append {item other : Reader α} {values : List α}
    (nil : ∀ {value rest}, item [] = .ok (value, rest) → rest = [])
    (same : ∀ value ∈ values, ∀ {text rest}, item text = .ok (value, rest) → rest ≠ [] →
      other (text ++ more) = .ok (value, rest ++ more))
    (h : list item text = .ok (values, rest)) : list other (text ++ more) = .ok (values, rest ++ more) := by
  obtain ⟨middle, inside, ending⟩ := enclosed_eq_ok_iff.1 h
  have longer : text.length ≤ (text ++ more).length := by simp
  rw [listEnd_eq_ok_iff] at ending
  exact enclosed_eq_ok_iff.2 ⟨middle ++ more, items_append nil same inside longer,
    listEnd_eq_ok_iff.2 (dropWhile_append_of_eq_cons ending more)⟩

theorem object_append {member other : Reader α} {rows : List (String × α)}
    (nil : ∀ {value rest}, member [] = .ok (value, rest) → rest = [])
    (same : ∀ row ∈ rows, ∀ {text rest}, member text = .ok (row.2, rest) → rest ≠ [] →
      other (text ++ more) = .ok (row.2, rest ++ more))
    (h : object member text = .ok (rows, rest)) : object other (text ++ more) = .ok (rows, rest ++ more) := by
  obtain ⟨middle, inside, ending⟩ := enclosed_eq_ok_iff.1 h
  have longer : text.length ≤ (text ++ more).length := by simp
  rw [objectEnd_eq_ok_iff] at ending
  exact enclosed_eq_ok_iff.2 ⟨middle ++ more, members_append nil same inside longer,
    objectEnd_eq_ok_iff.2 (dropWhile_append_of_eq_cons ending more)⟩

theorem nesting_of_scalar {found : Json} (h : scalar text = .ok (found, rest)) : found.nesting = 0 := by
  unfold scalar at h
  split at h
  · cases h
  · split_ifs at h
    on_goal 6 => cases h
    all_goals
      obtain ⟨_, _, _, h⟩ := bind_eq_ok_iff.1 h
      cases h
      rfl

theorem value_bracket (room : Nat) (after : List Char) :
    value (room + 1) ('[' :: after) = (Json.list <$> list (value room) : Reader Json) after := rfl

theorem value_brace (room : Nat) (after : List Char) :
    value (room + 1) ('\x7b' :: after) = (Json.object <$> object (value room) : Reader Json) after := rfl

theorem value_nil (room : Nat) {found : Json} : value room [] ≠ .ok (found, rest) := by
  cases room <;> nofun

/-- No value starts with a closing bracket. -/
theorem exists_cons_of_value {room : Nat} {found : Json} (h : value room text = .ok (found, rest)) :
    ∃ c after, text.dropWhile isSpace = c :: after ∧ c ≠ ']' := by
  rw [← value_dropWhile] at h
  cases shown : text.dropWhile isSpace with
  | nil =>
      rw [shown] at h
      exact absurd h (value_nil room)
  | cons c after =>
      refine ⟨c, after, rfl, ?_⟩
      rintro rfl
      rw [shown, value_eq_scalar (by decide) (by decide) (by decide)] at h
      cases h

/-- What is read as a value is read the same in a longer text and with other room, as far as its nesting fits in. -/
theorem value_append {room other : Nat} {found : Json} (h : value room text = .ok (found, rest))
    (fits : found.nesting ≤ other) (closed : rest ≠ [] ∨ 0 < found.nesting) (more : List Char) :
    value other (text ++ more) = .ok (found, rest ++ more) := by
  induction room using Nat.strongRec generalizing other text found rest with
  | ind room ih =>
      have nil {room : Nat} {found : Json} {rest : List Char} (h : value room [] = .ok (found, rest)) : rest = [] :=
        absurd h (value_nil room)
      rw [← value_dropWhile] at h
      cases shown : text.dropWhile isSpace with
      | nil =>
          rw [shown] at h
          exact absurd h (value_nil room)
      | cons c after =>
          rw [shown] at h
          rw [← value_dropWhile, dropWhile_append_of_eq_cons shown]
          by_cases bracket : c = '['
          · subst bracket
            cases room with
            | zero => cases h
            | succ room =>
                obtain ⟨items, _, read, taken⟩ := bind_eq_ok_iff.1 (value_bracket room after ▸ h)
                cases taken
                obtain ⟨below, rfl⟩ := Nat.exists_eq_succ_of_ne_zero (Nat.ne_zero_of_lt fits)
                have inside : list (value below) (after ++ more) = .ok (items, rest ++ more) := by
                  refine list_append nil (fun item hitem {text rest} read left => ?_) read
                  have shallow := Nat.le_trans (nesting_le_of_mem_items hitem) (Nat.le_of_succ_le_succ fits)
                  exact ih room (Nat.lt_succ_self room) read shallow (.inl left)
                rw [value_bracket]
                exact bind_eq_ok_iff.2 ⟨items, rest ++ more, inside, rfl⟩
          · by_cases brace : c = '\x7b'
            · subst brace
              cases room with
              | zero => cases h
              | succ room =>
                  obtain ⟨members, _, read, taken⟩ := bind_eq_ok_iff.1 (value_brace room after ▸ h)
                  cases taken
                  obtain ⟨below, rfl⟩ := Nat.exists_eq_succ_of_ne_zero (Nat.ne_zero_of_lt fits)
                  have inside : object (value below) (after ++ more) = .ok (members, rest ++ more) := by
                    refine object_append nil (fun row hrow {text rest} read left => ?_) read
                    have shallow := Nat.le_trans (nesting_le_of_mem_members hrow) (Nat.le_of_succ_le_succ fits)
                    exact ih room (Nat.lt_succ_self room) read shallow (.inl left)
                  rw [value_brace]
                  exact bind_eq_ok_iff.2 ⟨members, rest ++ more, inside, rfl⟩
            · rw [value_eq_scalar (visible_of_dropWhile shown) bracket brace] at h ⊢
              have left : rest ≠ [] := closed.resolve_right (by rw [nesting_of_scalar h]; exact Nat.lt_irrefl 0)
              exact Steady.scalar.append h left more

end Reader

end CarbonSurvey.Json
