import CarbonSurvey.Proofs.Text.Bytes
import Mathlib.Data.List.Induction

/-! # Places in the lines of a text

A place is the index of a byte, a position counted from one in a line counted from one, or the number of
characters before it. There is one line more than there are newlines (`exists_isLine_iff`). A position in a
line that exists means a byte of that line (`IsLine.indexIn_eq`), the position of a byte means that byte
(`indexIn_placed`), and the byte where a character starts has the characters before that one before it
(`charsBefore_byteLength`).
-/

namespace CarbonSurvey.Text

/-! ## The position of a byte -/

/-- The line and the column of the byte at an index, both counted from one: the newlines before it, and
    the bytes after the last of them. -/
def Position.placed (text : List Char) (index : Nat) : Position :=
  let before := (bytes text).take index
  ⟨1 + before.count newline, 1 + (before.reverse.takeWhile (· ≠ newline)).length⟩

/-! ## Lines -/

/-- A line starts after this text, which is empty or ends with a newline. -/
def StartsLine (before : List Char) : Prop :=
  before = [] ∨ before.getLast? = some '\n'

/-- The line of a text with a number comes after the text before it. It goes on up to its newline and with
    it, or up to the end of the text, and may be empty there. -/
structure IsLine (text : List Char) (number : Nat) (before line : List Char) : Prop where
  start : StartsLine before
  number_eq : number = before.count '\n' + 1
  unbroken : '\n' ∉ line.dropLast
  stop : ∃ after, text = before ++ line ++ after ∧ (after = [] ∨ line.getLast? = some '\n')

/-- A text is whole lines and the start of one more. -/
theorem exists_line_start (text : List Char) :
    ∃ before rest, text = before ++ rest ∧ StartsLine before ∧ '\n' ∉ rest := by
  induction text using List.reverseRecOn with
  | nil => exact ⟨[], [], rfl, .inl rfl, List.not_mem_nil⟩
  | append_singleton text c ih =>
      by_cases ending : c = '\n'
      · exact ⟨text ++ [c], [], by simp, .inr (by simp [ending]), List.not_mem_nil⟩
      · obtain ⟨before, rest, rfl, start, unbroken⟩ := ih
        exact ⟨before, rest ++ [c], by simp, start, by simp [unbroken, Ne.symm ending]⟩

/-- The start of a line is part of a line. -/
theorem exists_isLine {before begun : List Char} (start : StartsLine before) (unbroken : '\n' ∉ begun)
    (rest : List Char) :
    ∃ others, IsLine (before ++ begun ++ rest) (before.count '\n' + 1) before (begun ++ others) := by
  by_cases more : '\n' ∈ rest
  · obtain ⟨others, after, rfl, first⟩ := List.eq_append_cons_of_mem more
    refine ⟨others ++ ['\n'], start, rfl, ?_, after, by simp, .inr (by simp)⟩
    rw [← List.append_assoc, List.dropLast_concat]
    simp [unbroken, first]
  · refine ⟨rest, start, rfl, ?_, [], by simp, .inl rfl⟩
    intro h
    simpa [unbroken, more] using List.dropLast_subset _ h

theorem exists_whole_lines (text : List Char) {number : Nat} (h : number ≤ text.count '\n') :
    ∃ before rest, text = before ++ rest ∧ StartsLine before ∧ before.count '\n' = number := by
  induction number with
  | zero => exact ⟨[], text, rfl, .inl rfl, rfl⟩
  | succ number ih =>
      obtain ⟨before, rest, rfl, -, counted⟩ := ih (by omega)
      rw [List.count_append, counted] at h
      have more : '\n' ∈ rest := List.count_pos_iff.1 (by omega)
      obtain ⟨others, after, rfl, first⟩ := List.eq_append_cons_of_mem more
      refine ⟨before ++ (others ++ ['\n']), after, by simp, .inr (by simp), ?_⟩
      simp [counted, List.count_eq_zero_of_not_mem first]

/-- There is one line more than there are newlines. -/
theorem exists_isLine_iff (text : List Char) (number : Nat) :
    (∃ before line, IsLine text number before line) ↔ 1 ≤ number ∧ number ≤ text.count '\n' + 1 := by
  constructor
  · rintro ⟨before, line, -, rfl, -, after, rfl, -⟩
    simp only [List.count_append]
    omega
  · rintro ⟨positive, enough⟩
    obtain ⟨before, rest, rfl, start, counted⟩ := @exists_whole_lines text (number - 1) (by omega)
    obtain ⟨line, isLine⟩ := exists_isLine start List.not_mem_nil rest
    rw [List.append_nil, counted, Nat.sub_add_cancel positive] at isLine
    exact ⟨before, [] ++ line, isLine⟩

/-! ## The byte at a position -/

@[simp]
theorem utf8Size_newline : '\n'.utf8Size = 1 := rfl

theorem indexIn_consLine_one (c : Char) (ls : List (List Char)) (column : Nat) :
    indexIn (consLine c ls) 1 column = min (column - 1) c.utf8Size + indexIn ls 1 (column - c.utf8Size) := by
  cases ls with
  | nil => simp [consLine, indexIn]
  | cons line ls =>
      simp only [consLine, indexIn, if_true, byteLength_cons]
      omega

theorem indexIn_consLine_of_ne_one (c : Char) (ls : List (List Char)) {number : Nat} (h : number ≠ 1)
    (column : Nat) : indexIn (consLine c ls) number column = c.utf8Size + indexIn ls number column := by
  cases ls with
  | nil => simp [consLine, indexIn, h]
  | cons line ls => simp only [consLine, indexIn, if_neg h, byteLength_cons, Nat.add_assoc]

/-- Whole lines push a position down by their number, and its byte on by theirs. -/
theorem indexIn_lines_append {before : List Char} (start : StartsLine before) (rest : List Char)
    (column : Nat) :
    indexIn (lines (before ++ rest)) (before.count '\n' + 1) column =
      byteLength before + indexIn (lines rest) 1 column := by
  induction before with
  | nil => simp
  | cons c before ih =>
      by_cases ending : c = '\n'
      · subst ending
        have start_rest : StartsLine before := by
          cases before with
          | nil => exact .inl rfl
          | cons d before => exact start.imp (by simp) (by simp)
        simp [lines, indexIn, ih start_rest, Nat.add_assoc]
      · have nonempty : before ≠ [] := by
          rintro rfl
          simp [StartsLine, ending] at start
        have start_rest : before.getLast? = some '\n' := by
          simpa [StartsLine, List.getLast?_cons_of_ne_nil nonempty] using start
        have broken : 0 < before.count '\n' := List.count_pos_iff.2 (List.mem_of_getLast? start_rest)
        rw [List.count_cons_of_ne ending, List.cons_append, lines, if_neg ending,
          indexIn_consLine_of_ne_one c _ (by omega), ih (.inr start_rest), byteLength_cons, Nat.add_assoc]

theorem indexIn_first {line after : List Char} (unbroken : '\n' ∉ line.dropLast)
    (stop : after = [] ∨ line.getLast? = some '\n') (column : Nat) :
    indexIn (lines (line ++ after)) 1 column = min (column - 1) (byteLength line) := by
  induction line generalizing column with
  | nil =>
      obtain rfl : after = [] := by simpa using stop
      simp [lines, indexIn]
  | cons c line ih =>
      cases line with
      | nil =>
          by_cases ending : c = '\n'
          · simp [lines, indexIn, ending]
          · obtain rfl : after = [] := by simpa [ending] using stop
            simp [lines, indexIn, ending, consLine]
      | cons d line =>
          rw [List.dropLast_cons_cons, List.mem_cons, not_or] at unbroken
          rw [List.getLast?_cons_cons] at stop
          rw [List.cons_append, lines, if_neg (Ne.symm unbroken.1), indexIn_consLine_one, ih unbroken.2 stop,
            byteLength_cons c]
          omega

theorem IsLine.indexIn_eq {text before line : List Char} {number : Nat} (h : IsLine text number before line)
    (column : Nat) :
    indexIn (lines text) number column = byteLength before + min (column - 1) (byteLength line) := by
  obtain ⟨start, rfl, unbroken, after, rfl, stop⟩ := h
  rw [List.append_assoc, indexIn_lines_append start, indexIn_first unbroken stop]

theorem flatten_consLine (c : Char) (ls : List (List Char)) : (consLine c ls).flatten = c :: ls.flatten := by
  cases ls <;> rfl

@[simp]
theorem flatten_lines (text : List Char) : (lines text).flatten = text := by
  induction text with
  | nil => rfl
  | cons c text ih =>
      rw [lines]
      split_ifs <;> simp [flatten_consLine, ih]

theorem indexIn_le (ls : List (List Char)) (number column : Nat) :
    indexIn ls number column ≤ byteLength ls.flatten := by
  induction ls generalizing number with
  | nil => exact Nat.zero_le _
  | cons line ls ih =>
      have rest := ih (number - 1)
      rw [indexIn, List.flatten_cons, byteLength_append]
      split_ifs <;> omega

/-! ## From a byte to its position and back -/

theorem newline_mem_bytes_iff (text : List Char) : newline ∈ bytes text ↔ '\n' ∈ text := by
  simp [bytes, List.mem_flatMap, newline_mem_encoded_iff]

theorem count_bytes (text : List Char) : (bytes text).count newline = text.count '\n' := by
  induction text with
  | nil => rfl
  | cons c text ih =>
      rw [bytes_cons, List.count_append, ih]
      by_cases ending : c = '\n'
      · subst ending
        rw [List.count_cons_self, Nat.add_comm]
        rfl
      · have absent : newline ∉ String.utf8EncodeChar c := fun h => ending ((newline_mem_encoded_iff c).1 h)
        rw [List.count_cons_of_ne ending, List.count_eq_zero_of_not_mem absent, Nat.zero_add]

/-- The bytes up to an index are those of some characters, and then bytes within one more line. -/
theorem exists_take_bytes {text : List Char} {index : Nat} (h : index ≤ byteLength text) :
    ∃ left middle right part, text = left ++ middle ++ right ∧ '\n' ∉ middle ∧
      (bytes text).take index = bytes left ++ part ∧ newline ∉ part ∧ part.length ≤ byteLength middle := by
  induction text generalizing index with
  | nil => exact ⟨[], [], [], [], rfl, List.not_mem_nil, by simp, List.not_mem_nil, by simp⟩
  | cons c text ih =>
      rw [byteLength_cons] at h
      rcases Nat.lt_or_ge index c.utf8Size with inside | past
      · rcases Nat.eq_zero_or_pos index with rfl | positive
        · exact ⟨[], [], c :: text, [], rfl, List.not_mem_nil, rfl, List.not_mem_nil, Nat.le_refl 0⟩
        · have unbroken : c ≠ '\n' := by
            rintro rfl
            rw [utf8Size_newline] at inside
            omega
          have absent : newline ∉ String.utf8EncodeChar c := fun h =>
            unbroken ((newline_mem_encoded_iff c).1 h)
          refine ⟨[], [c], text, (String.utf8EncodeChar c).take index, rfl, by simpa using Ne.symm unbroken,
            ?_, fun h => absent (List.mem_of_mem_take h), ?_⟩
          · rw [bytes_cons, List.take_append_of_le_length (by simp; omega), bytes_nil, List.nil_append]
          · rw [List.length_take, String.length_utf8EncodeChar]
            exact Nat.min_le_right _ _
      · obtain ⟨left, middle, right, part, rfl, unbroken, before, absent, short⟩ :=
          @ih (index - c.utf8Size) (by omega)
        refine ⟨c :: left, middle, right, part, rfl, unbroken, ?_, absent, short⟩
        rw [bytes_cons, List.take_append, String.length_utf8EncodeChar, before,
          List.take_of_length_le (by simpa using past), bytes_cons, List.append_assoc]

theorem placed_eq {before begun : List Char} {part : List UInt8} {text : List Char} {index : Nat}
    (taken : (bytes text).take index = bytes (before ++ begun) ++ part) (start : StartsLine before)
    (unbroken : '\n' ∉ begun) (absent : newline ∉ part) :
    Position.placed text index = ⟨before.count '\n' + 1, byteLength begun + part.length + 1⟩ := by
  have absent_begun : newline ∉ bytes begun := fun h => unbroken ((newline_mem_bytes_iff begun).1 h)
  have last : (bytes before).reverse.takeWhile (· ≠ newline) = [] := by
    rcases start with rfl | ending
    · rfl
    · obtain ⟨lines, rfl⟩ := List.getLast?_eq_some_iff.1 ending
      have encoded : bytes ['\n'] = [newline] := rfl
      rw [bytes_append, encoded, List.reverse_append, List.reverse_singleton, List.singleton_append,
        List.takeWhile_cons_of_neg (by simp)]
  have others : ∀ byte ∈ part.reverse ++ (bytes begun).reverse, decide (byte ≠ newline) := by
    intro byte h
    rw [decide_eq_true_iff]
    rintro rfl
    simp [absent, absent_begun] at h
  have counted : (bytes (before ++ begun) ++ part).count newline = before.count '\n' := by
    rw [bytes_append, List.count_append, List.count_append, count_bytes,
      List.count_eq_zero_of_not_mem absent_begun, List.count_eq_zero_of_not_mem absent]
    rfl
  have column : (bytes (before ++ begun) ++ part).reverse.takeWhile (· ≠ newline) =
      part.reverse ++ (bytes begun).reverse := by
    rw [bytes_append, List.reverse_append, List.reverse_append, ← List.append_assoc,
      List.takeWhile_append_of_pos others, last, List.append_nil]
  rw [Position.placed]
  simp only [taken, counted, column, List.length_append, List.length_reverse, length_bytes,
    Position.mk.injEq]
  omega

theorem indexIn_placed {text : List Char} {index : Nat} (h : index ≤ byteLength text) :
    indexIn (lines text) (Position.placed text index).line (Position.placed text index).column = index := by
  obtain ⟨left, middle, right, part, rfl, unbroken, taken, absent, short⟩ := exists_take_bytes h
  obtain ⟨before, begun, rfl, start, unbroken_begun⟩ := exists_line_start left
  obtain ⟨others, line⟩ :=
    @exists_isLine before (begun ++ middle) start (by simp [unbroken, unbroken_begun]) right
  have size := congrArg List.length taken
  rw [List.length_take, length_bytes, Nat.min_eq_left h, List.length_append, length_bytes,
    byteLength_append] at size
  rw [placed_eq taken start unbroken_begun absent]
  simp only [List.append_assoc] at line ⊢
  rw [line.indexIn_eq, byteLength_append, byteLength_append]
  omega

/-! ## From a byte to the characters before it -/

theorem charsBefore_byteLength (left right : List Char) :
    charsBefore (left ++ right) (byteLength left) = left.length := by
  induction left with
  | nil => cases right <;> rfl
  | cons c left ih =>
      have positive := c.utf8Size_pos
      rw [List.cons_append, charsBefore, byteLength_cons, if_neg (by omega), Nat.add_sub_cancel_left, ih,
        List.length_cons, Nat.add_comm]

theorem charsBefore_le (text : List Char) (index : Nat) : charsBefore text index ≤ text.length := by
  induction text generalizing index with
  | nil => exact Nat.le_refl 0
  | cons c text ih =>
      have rest := ih (index - c.utf8Size)
      rw [charsBefore, List.length_cons]
      split_ifs <;> omega

end CarbonSurvey.Text
