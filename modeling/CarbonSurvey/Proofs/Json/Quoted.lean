import CarbonSurvey.Json.Text
import CarbonSurvey.Json.Writer

/-! # Texts in quotes

A text that is written in quotes reads back as itself, whatever its characters are and whatever follows the
closing quote (`quoted_writeChars`). It goes one written character at a time, so each escape is looked at once.
-/

namespace CarbonSurvey.Json

theorem hexValue?_hexDigit (n : Nat) : Reader.hexValue? (hexDigit n) = some (n % 16) := by
  have digits : ∀ digit < 16, Reader.hexValue? (Nat.digitChar digit) = some digit := by decide
  exact digits (n % 16) (Nat.mod_lt n (by decide))

theorem writeChar_ne_nil (c : Char) : writeChar c ≠ [] := by
  unfold writeChar
  repeat' split
  all_goals exact List.cons_ne_nil _ _

theorem writeChars_cons (c : Char) (text : List Char) : writeChars (c :: text) = writeChar c ++ writeChars text :=
  rfl

theorem length_le_length_writeChars (text : List Char) : text.length ≤ (writeChars text).length := by
  induction text with
  | nil => exact Nat.le_refl 0
  | cons c text ih =>
      have written := List.length_pos_iff.2 (writeChar_ne_nil c)
      rw [writeChars_cons, List.length_append, List.length_cons]
      omega

namespace Reader

variable {c letter : Char} {bound rest : List Char}

theorem escape_letter (h : escapeLetter? c = some letter) : escape (c :: rest) = .ok (letter, rest) := by
  have named : c ≠ 'u' := by
    rintro rfl
    exact nomatch h
  simp only [escape, if_neg named, h]

/-- A control character that has no letter is written as its code. -/
theorem escape_code (h : c.toNat < 0x20) :
    escape ('u' :: '0' :: '0' :: hexDigit (c.toNat / 16) :: hexDigit c.toNat :: rest) = .ok (c, rest) := by
  have zero : hexValue? '0' = some 0 := rfl
  have unit : hexUnit? '0' '0' (hexDigit (c.toNat / 16)) (hexDigit c.toNat) = some c.toNat := by
    simp only [hexUnit?, zero, hexValue?_hexDigit, Option.bind_eq_bind, Option.bind_some, Option.pure_def,
      Option.some.injEq]
    omega
  have not_low : isLowSurrogate c.toNat = false := by
    rw [isLowSurrogate, Bool.and_eq_false_iff, decide_eq_false_iff_not]
    exact .inl (by omega)
  have not_high : isHighSurrogate c.toNat = false := by
    rw [isHighSurrogate, Bool.and_eq_false_iff, decide_eq_false_iff_not]
    exact .inl (by omega)
  simp [escape, unicodeEscape, hexUnit, bind_apply, pure_apply, unit, not_low, not_high]

theorem quotedChars_cons (mark c : Char) (bound rest : List Char) : quotedChars (mark :: bound) (c :: rest) =
    if c = '"' then .ok ([], rest)
    else if c = '\\' then
      (do let letter ← escape; let letters ← quotedChars bound; return letter :: letters : Reader _) rest
    else if c.toNat < 0x20 then failNext .controlCharacter (c :: rest)
    else (do let letters ← quotedChars bound; return c :: letters : Reader _) rest := rfl

/-- A written character is read as one character, even where it takes several. -/
theorem quotedChars_writeChar (mark c : Char) (bound rest : List Char) :
    quotedChars (mark :: bound) (writeChar c ++ rest) =
      (do let letters ← quotedChars bound; return c :: letters : Reader _) rest := by
  have escaped : ∀ after, escape after = .ok (c, rest) → quotedChars (mark :: bound) ('\\' :: after) =
      (do let letters ← quotedChars bound; return c :: letters : Reader _) rest := by
    intro after h
    rw [quotedChars_cons, if_neg (by decide), if_pos rfl, bind_of_ok h]
  unfold writeChar
  -- the seven characters whose escape is a letter come first
  iterate 7
    split
    · next same => exact same ▸ escaped _ (same ▸ escape_letter rfl)
  split
  · next control => exact escaped _ (escape_code control)
  · next quote backslash _ _ _ _ _ visible =>
    rw [List.singleton_append, quotedChars_cons, if_neg quote, if_neg backslash, if_neg visible]

theorem quotedChars_writeChars (text : List Char) (h : text.length < bound.length) :
    quotedChars bound (writeChars text ++ '"' :: rest) = .ok (text, rest) := by
  induction text generalizing bound with
  | nil =>
      obtain ⟨mark, bound, rfl⟩ := List.exists_cons_of_length_pos h
      rfl
  | cons c text ih =>
      obtain ⟨mark, bound, rfl⟩ := List.exists_cons_of_length_pos (Nat.zero_lt_of_lt h)
      rw [writeChars_cons, List.append_assoc, quotedChars_writeChar, bind_of_ok (ih (Nat.lt_of_succ_lt_succ h))]
      rfl

/-- A text in quotes reads back as itself. -/
theorem quoted_writeChars (text : String) (rest : List Char) :
    quoted (writeChars text.toList ++ '"' :: rest) = .ok (text, rest) := by
  have long : text.toList.length < (writeChars text.toList ++ '"' :: rest).length := by
    have written := length_le_length_writeChars text.toList
    rw [List.length_append, List.length_cons]
    omega
  rw [quoted, map_eq_bind, bind_of_ok (quotedChars_writeChars _ long), String.ofList_toList]
  rfl

end Reader

end CarbonSurvey.Json
