import CarbonSurvey.Json.Decoder
import CarbonSurvey.Proofs.Json.Quoted
import Mathlib.Data.List.Basic

/-! # Readers that do not look ahead

A reader that stops in front of a character has seen all it wants to see: whatever comes after that character, it takes
the same from the front of the text (`Steady`). Only at the end of a text may more of it change what is read, as more
digits change a number. Readers that are built from steady ones are steady (`Steady.bind`).
-/

namespace CarbonSurvey.Json.Reader

variable {α β : Type} {reader : Reader α} {text rest : List Char}

theorem bind_eq_ok_iff {next : α → Reader β} {taken : β × List Char} :
    (reader >>= next) text = .ok taken ↔
      ∃ value middle, reader text = .ok (value, middle) ∧ next value middle = .ok taken := by
  rw [bind_apply]
  cases reader text with
  | error fault => exact ⟨nofun, nofun⟩
  | ok found =>
      constructor
      · intro h
        exact ⟨found.1, found.2, rfl, h⟩
      · rintro ⟨value, middle, same, h⟩
        cases same
        exact h

/-- What the reader takes while something is left, it takes whatever comes after what is left. -/
structure Steady (reader : Reader α) : Prop where
  append : ∀ {text value rest}, reader text = .ok (value, rest) → rest ≠ [] →
    ∀ more, reader (text ++ more) = .ok (value, rest ++ more)
  /-- Of nothing, nothing is left. -/
  nil : ∀ {value rest}, reader [] = .ok (value, rest) → rest = []

namespace Steady

theorem ne_nil (h : Steady reader) {value : α} (read : reader text = .ok (value, rest)) (left : rest ≠ []) :
    text ≠ [] := by
  rintro rfl
  exact left (h.nil read)

/-- A reader may be looked at where the text has a first character. -/
theorem of_cons (nil : ∀ {value rest}, reader [] = .ok (value, rest) → rest = [])
    (cons : ∀ {c after value rest}, reader (c :: after) = .ok (value, rest) → rest ≠ [] →
      ∀ more, reader (c :: (after ++ more)) = .ok (value, rest ++ more)) : Steady reader where
  append := by
    intro text value rest h left more
    cases text with
    | nil => exact absurd (nil h) left
    | cons c after => exact cons h left more
  nil := nil

theorem pure (value : α) : Steady (Pure.pure value : Reader α) where
  append := by
    intro text found rest h _ more
    cases h
    rfl
  nil := by
    intro found rest h
    cases h
    rfl

theorem bind (h : Steady reader) {next : α → Reader β} (hnext : ∀ value, Steady (next value)) :
    Steady (reader >>= next) where
  append := by
    intro text found rest taken left more
    obtain ⟨value, middle, first, last⟩ := bind_eq_ok_iff.1 taken
    have more_first := h.append first ((hnext value).ne_nil last left) more
    exact bind_eq_ok_iff.2 ⟨value, middle ++ more, more_first, (hnext value).append last left more⟩
  nil := by
    intro found rest taken
    obtain ⟨value, middle, first, last⟩ := bind_eq_ok_iff.1 taken
    obtain rfl := h.nil first
    exact (hnext value).nil last

theorem map (h : Steady reader) (f : α → β) : Steady (f <$> reader) :=
  h.bind fun value => .pure (f value)

theorem failHere (cause : Cause) : Steady (Reader.failHere cause : Reader α) :=
  ⟨nofun, nofun⟩

theorem failNext (cause : Cause) : Steady (Reader.failNext cause : Reader α) :=
  ⟨nofun, nofun⟩

theorem dropWhile_append {p : Char → Bool} (left : text.dropWhile p ≠ []) (more : List Char) :
    (text ++ more).dropWhile p = text.dropWhile p ++ more := by
  rw [List.dropWhile_append, if_neg (by simpa using left)]

theorem takeWhile_append {p : Char → Bool} (left : text.dropWhile p ≠ []) (more : List Char) :
    (text ++ more).takeWhile p = text.takeWhile p := by
  rw [List.takeWhile_append, if_neg]
  intro whole
  have parts := congrArg List.length (List.takeWhile_append_dropWhile (p := p) (l := text))
  rw [List.length_append, whole, Nat.add_eq_left] at parts
  exact left (List.length_eq_zero_iff.1 parts)

theorem upcoming : Steady upcoming where
  append := by
    intro text shown rest h left more
    cases h
    rw [Reader.upcoming, dropWhile_append left, List.head?_append_of_ne_nil _ left]
  nil := by
    intro shown rest h
    cases h
    rfl

theorem advance : Steady advance := by
  refine of_cons (fun h => by cases h; rfl) fun {c after done rest} h left more => ?_
  cases h
  rfl

theorem word (letters : List Char) : Steady (word letters) where
  append := by
    induction letters with
    | nil =>
        intro text done rest h _ more
        cases h
        rfl
    | cons letter letters ih =>
        intro text done rest h left more
        cases text with
        | nil => cases h
        | cons c text =>
            rw [List.cons_append, Reader.word] at *
            split at h
            · next same =>
              rw [if_pos same]
              exact ih h left more
            · cases h
  nil := by
    intro done rest h
    cases letters with
    | nil =>
        cases h
        rfl
    | cons letter letters => cases h

theorem colon : Steady colon := by
  refine .bind .upcoming fun shown => ?_
  split
  · exact .advance
  · exact .failNext _
  · exact .failNext _

/-! ## Numbers -/

theorem minus : Steady minus := by
  refine of_cons (fun h => by cases h; rfl) fun {c after negative rest} h left more => ?_
  by_cases mark : c = '-'
  · subst mark
    cases h
    rfl
  · have unsigned (after : List Char) : Reader.minus (c :: after) = .ok (false, c :: after) := by
      simp [Reader.minus, mark]
    rw [unsigned] at h ⊢
    cases h
    rfl

theorem digits : Steady digits where
  append := by
    intro text found rest h left more
    cases h
    rw [Reader.digits, takeWhile_append left, dropWhile_append left]
  nil := by
    intro found rest h
    cases h
    rfl

theorem wholeDigits : Steady wholeDigits := by
  refine of_cons nofun fun {c after found rest} h left more => ?_
  by_cases zero : c = '0'
  · subst zero
    have started (after : List Char) : Reader.wholeDigits ('0' :: after) =
        if after.head?.any Char.isDigit then Reader.failNext .invalidNumber after else .ok (['0'], after) := rfl
    rw [started] at h ⊢
    split at h
    · cases h
    · next alone =>
      cases h
      rw [List.head?_append_of_ne_nil _ left, if_neg alone]
  · have started (after : List Char) : Reader.wholeDigits (c :: after) =
        if c.isDigit then Reader.digits (c :: after) else Reader.failNext .invalidNumber (c :: after) := by
      simp [Reader.wholeDigits]
    rw [started] at h ⊢
    split at h
    · next digit =>
      rw [if_pos digit]
      exact digits.append h left more
    · cases h

theorem fractionDigits : Steady fractionDigits := by
  refine of_cons (fun h => by cases h; rfl) fun {c after found rest} h left more => ?_
  by_cases point : c = '.'
  · subst point
    cases after with
    | nil => cases h
    | cons d after =>
        have pointed (after : List Char) : Reader.fractionDigits ('.' :: d :: after) =
            if d.isDigit then Reader.digits (d :: after) else Reader.failNext .invalidNumber (d :: after) := rfl
        rw [List.cons_append]
        rw [pointed] at h ⊢
        split at h
        · next digit =>
          rw [if_pos digit]
          exact digits.append h left more
        · cases h
  · have whole (after : List Char) : Reader.fractionDigits (c :: after) = .ok ([], c :: after) := by
      simp [Reader.fractionDigits, point]
    rw [whole] at h ⊢
    cases h
    rfl

theorem exponentSign : Steady exponentSign := by
  refine of_cons (fun h => by cases h; rfl) fun {c after negative rest} h left more => ?_
  by_cases signed : c = '+' ∨ c = '-'
  · rcases signed with rfl | rfl
    · cases h
      rfl
    · cases h
      rfl
  · have unsigned (after : List Char) : Reader.exponentSign (c :: after) = .ok (false, c :: after) := by
      rw [not_or] at signed
      simp [Reader.exponentSign, signed]
    rw [unsigned] at h ⊢
    cases h
    rfl

theorem exponentDigits_append {power : Nat} (left : (exponentDigits power text).2 ≠ []) (more : List Char) :
    exponentDigits power (text ++ more) = ((exponentDigits power text).1, (exponentDigits power text).2 ++ more) := by
  induction text generalizing power with
  | nil => exact absurd rfl left
  | cons c text ih =>
      rw [exponentDigits] at left
      rw [List.cons_append, exponentDigits, exponentDigits]
      split
      · next digit =>
        rw [if_pos digit] at left
        split
        · next fits =>
          rw [if_pos fits] at left
          exact ih left
        · rfl
      · rfl

theorem exponent (significand : Nat) : Steady (exponent significand) := by
  refine .bind exponentSign fun negative => of_cons nofun fun {c after power rest} h left more => ?_
  dsimp only at h ⊢
  split at h
  · next digit =>
    rw [if_pos digit]
    split at h
    · next value after' read =>
      cases h
      have grown := exponentDigits_append (by rw [read]; exact left) more
      rw [read] at grown
      rw [grown]
    · next after' read =>
      split at h
      · cases h
      · next small =>
        cases h
        have after_ne : after' ≠ [] := by
          rintro rfl
          exact left rfl
        have grown := exponentDigits_append (by rw [read]; exact after_ne) more
        rw [read] at grown
        rw [grown]
        dsimp only
        rw [if_neg small, dropWhile_append left]
  · cases h

theorem exponent? (significand : Nat) : Steady (exponent? significand) := by
  refine of_cons (fun h => by cases h; rfl) fun {c after power rest} h left more => ?_
  unfold Reader.exponent? at h ⊢
  dsimp only at h ⊢
  split at h
  · next mark =>
    rw [if_pos mark]
    exact ((exponent significand).map some).append h left more
  · next other =>
    cases h
    rw [if_neg other]
    rfl

theorem number : Steady number := by
  refine .bind minus fun negative => .bind wholeDigits fun whole => .bind fractionDigits fun fraction => ?_
  refine .bind (exponent? _) fun power => ?_
  split
  · exact .pure _
  · split
    · exact .pure _
    · exact .failHere _

/-! ## Texts -/

theorem hexUnit : Steady hexUnit where
  append := by
    intro text unit rest h left more
    unfold Reader.hexUnit at h ⊢
    dsimp only at h
    split at h
    · next a b c d after =>
      split at h
      · next unit read =>
        cases h
        simp [read]
      · split at h <;> cases h
    · split at h <;> cases h
  nil := nofun

theorem escapeMark (mark : Char) : Steady (escapeMark mark) := by
  refine of_cons nofun fun {c after done rest} h left more => ?_
  unfold Reader.escapeMark at h ⊢
  dsimp only at h ⊢
  split at h
  · next same =>
    cases h
    rw [if_pos same]
  · cases h

theorem unicodeEscape : Steady unicodeEscape := by
  refine .bind hexUnit fun unit => ?_
  split
  · exact .failHere _
  · split
    · refine .bind (escapeMark _) fun _ => .bind (escapeMark _) fun _ => .bind hexUnit fun low => ?_
      split
      · exact .pure _
      · exact .failHere _
    · exact .pure _

theorem escape : Steady escape := by
  refine of_cons nofun fun {c after letter rest} h left more => ?_
  unfold Reader.escape at h ⊢
  dsimp only at h ⊢
  split at h
  · next code =>
    rw [if_pos code]
    exact unicodeEscape.append h left more
  · next other =>
    rw [if_neg other]
    split at h
    · next found =>
      cases h
      rfl
    · cases h

/-- The closing quote ends a text, whatever comes next and however long the text may be. -/
theorem quotedChars_append {bound longer : List Char} {letters : List Char}
    (h : quotedChars bound text = .ok (letters, rest)) (long : bound.length ≤ longer.length) (more : List Char) :
    quotedChars longer (text ++ more) = .ok (letters, rest ++ more) := by
  induction bound generalizing text letters longer with
  | nil => cases h
  | cons mark bound ih =>
      obtain ⟨mark', longer, rfl⟩ := List.exists_cons_of_length_pos (Nat.lt_of_lt_of_le (Nat.succ_pos _) long)
      have shorter : bound.length ≤ longer.length := Nat.le_of_succ_le_succ long
      cases text with
      | nil => cases h
      | cons c text =>
          rw [quotedChars_cons] at h
          rw [List.cons_append, quotedChars_cons]
          split at h
          · next quote =>
            cases h
            rw [if_pos quote]
          · next unquoted =>
            rw [if_neg unquoted]
            split at h
            · next backslash =>
              rw [if_pos backslash]
              obtain ⟨letter, middle, first, others⟩ := bind_eq_ok_iff.1 h
              obtain ⟨letters', _, last, taken⟩ := bind_eq_ok_iff.1 others
              cases taken
              have middle_ne : middle ≠ [] := by
                rintro rfl
                cases bound <;> cases last
              exact bind_eq_ok_iff.2 ⟨letter, middle ++ more, escape.append first middle_ne more,
                bind_eq_ok_iff.2 ⟨letters', rest ++ more, ih last shorter, rfl⟩⟩
            · next plain =>
              rw [if_neg plain]
              split at h
              · cases h
              · next visible =>
                rw [if_neg visible]
                obtain ⟨letters', _, last, taken⟩ := bind_eq_ok_iff.1 h
                cases taken
                exact bind_eq_ok_iff.2 ⟨letters', rest ++ more, ih last shorter, rfl⟩

theorem quoted : Steady quoted where
  append := by
    intro text content rest h _ more
    obtain ⟨letters, _, read, taken⟩ := bind_eq_ok_iff.1 h
    cases taken
    have long : text.length ≤ (text ++ more).length := by simp
    exact bind_eq_ok_iff.2 ⟨letters, rest ++ more, quotedChars_append read long more, rfl⟩
  nil := nofun

theorem scalar : Steady scalar := by
  refine of_cons nofun fun {c after value rest} h left more => ?_
  unfold Reader.scalar at h ⊢
  dsimp only at h ⊢
  split_ifs at h ⊢
  · exact ((word _).bind fun _ => .pure _).append h left more
  · exact ((word _).bind fun _ => .pure _).append h left more
  · exact ((word _).bind fun _ => .pure _).append h left more
  · exact (number.map _).append h left more
  · exact (quoted.map _).append h left more
  · cases h

/-! ## Lists and objects -/

theorem nextItem (first : Bool) : Steady (nextItem first) := by
  refine .bind .upcoming fun shown => ?_
  split
  · exact .failNext _
  · exact .pure _
  · split
    · exact .pure _
    · split
      · refine .bind .advance fun _ => .bind .upcoming fun shown => ?_
        split
        · exact .failNext _
        · exact .pure _
        · exact .failNext _
      · exact .failNext _

theorem nextKey (first : Bool) : Steady (nextKey first) := by
  refine .bind .upcoming fun shown => ?_
  split
  · exact .failNext _
  · exact .pure _
  · split
    · split
      · exact .bind .advance fun _ => .pure _
      · exact .failNext _
    · split
      · refine .bind .advance fun _ => .bind .upcoming fun shown => ?_
        split
        · exact .bind .advance fun _ => .pure _
        · exact .failNext _
        · exact .failNext _
        · exact .failNext _
      · exact .failNext _

end Steady

theorem upcoming_eq_ok_iff {shown : Option Char} :
    upcoming text = .ok (shown, rest) ↔ text.dropWhile isSpace = rest ∧ rest.head? = shown := by
  constructor
  · intro h
    cases h
    exact ⟨rfl, rfl⟩
  · rintro ⟨rfl, rfl⟩
    rfl

/-- A text is read as a whole if nothing but spaces is left. -/
theorem readWhole_eq_ok_iff {value : α} :
    reader.readWhole text = .ok value ↔ ∃ blank, reader text = .ok (value, blank) ∧ blank.dropWhile isSpace = [] := by
  have finished (blank : List Char) : (∃ taken, finish blank = .ok taken) ↔ blank.dropWhile isSpace = [] := by
    unfold finish
    rw [bind_apply]
    cases shown : blank.dropWhile isSpace <;> simp [upcoming, shown, pure_apply, Reader.failNext]
  unfold readWhole
  rw [bind_apply]
  cases reader text with
  | error fault => simp
  | ok taken =>
      obtain ⟨found, blank⟩ := taken
      have ends : (∃ after, Except.ok (ε := Fault) (found, blank) = .ok (value, after) ∧ after.dropWhile isSpace = []) ↔
          found = value ∧ blank.dropWhile isSpace = [] := by
        simp
      rw [ends, ← finished]
      cases ended : finish blank <;> simp [bind_apply, pure_apply, ended]

theorem listEnd_eq_ok_iff : listEnd text = .ok ((), rest) ↔ text.dropWhile isSpace = ']' :: rest := by
  unfold listEnd
  rw [bind_eq_ok_iff]
  constructor
  · rintro ⟨shown, middle, read, h⟩
    obtain ⟨spaces, head⟩ := upcoming_eq_ok_iff.1 read
    split at h
    · obtain ⟨after, rfl⟩ := List.head?_eq_some_iff.1 head
      cases h
      exact spaces
    · obtain ⟨_, after, _, h⟩ := bind_eq_ok_iff.1 h
      obtain ⟨next, last, _, h⟩ := bind_eq_ok_iff.1 h
      split at h <;> cases h
    · cases h
    · cases h
  · intro spaces
    exact ⟨some ']', ']' :: rest, upcoming_eq_ok_iff.2 ⟨spaces, rfl⟩, rfl⟩

theorem objectEnd_eq_ok_iff : objectEnd text = .ok ((), rest) ↔ text.dropWhile isSpace = '\x7d' :: rest := by
  unfold objectEnd
  rw [bind_eq_ok_iff]
  constructor
  · rintro ⟨shown, middle, read, h⟩
    obtain ⟨spaces, head⟩ := upcoming_eq_ok_iff.1 read
    split at h
    · obtain ⟨after, rfl⟩ := List.head?_eq_some_iff.1 head
      cases h
      exact spaces
    · cases h
    · cases h
    · cases h
  · intro spaces
    exact ⟨some '\x7d', '\x7d' :: rest, upcoming_eq_ok_iff.2 ⟨spaces, rfl⟩, rfl⟩

end CarbonSurvey.Json.Reader
