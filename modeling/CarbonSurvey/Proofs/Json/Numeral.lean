import CarbonSurvey.Proofs.Decimal.Layout
import CarbonSurvey.Proofs.Decimal.Shortest
import CarbonSurvey.Proofs.Json.Reading

/-! # Reading the numbers that are written

A finite number is written as its shortest digits. Wherever that text stands in a document it is read to its end:
all its digits fit the significand, and the value is that significand scaled once (`reads_value_number`).
-/

namespace CarbonSurvey.Json

open Decimal

theorem le_ofDigitChars (digits : List Char) (value : Nat) : value ≤ Nat.ofDigitChars 10 digits value := by
  rw [Nat.ofDigitChars_eq_ofDigitChars_zero]
  exact (Nat.le_mul_of_pos_left value (Nat.pow_pos (by decide))).trans (Nat.le_add_right _ _)

/-- Digits that fit are all absorbed. -/
theorem absorb_of_le {digits : List Char} {significand : Nat}
    (h : Nat.ofDigitChars 10 digits significand ≤ maxSignificand) :
    absorb significand digits = (Nat.ofDigitChars 10 digits significand, []) := by
  induction digits generalizing significand with
  | nil => rfl
  | cons c digits ih =>
      rw [Nat.ofDigitChars_cons] at h ⊢
      have fits : 10 * significand + digitValue c ≤ maxSignificand := (le_ofDigitChars digits _).trans h
      rw [absorb, if_pos fits]
      exact ih h

namespace Reader

variable {rest : List Char}

/-- No digit comes next. -/
def EndsDigits (rest : List Char) : Prop :=
  ∀ c ∈ rest.head?, c.isDigit = false

theorem Follows.endsDigits (h : Follows rest) : EndsDigits rest := by
  intro c hc
  rcases h c hc with rfl | rfl | rfl <;> rfl

theorem endsDigits_point (fraction : List Char) (h : EndsDigits rest) : EndsDigits (Parts.point fraction ++ rest) := by
  unfold Parts.point
  split
  · exact h
  · intro c hc
    cases hc
    rfl

theorem endsDigits_raise (power : Option Int) (h : EndsDigits rest) : EndsDigits (Parts.raise power ++ rest) := by
  cases power with
  | none => exact h
  | some power =>
      intro c hc
      cases hc
      rfl

theorem head?_raise (power : Option Int) (h : Follows rest) : (Parts.raise power ++ rest).head? ≠ some '.' := by
  intro point
  cases power with
  | none => rcases h _ point with mark | mark | mark <;> cases mark
  | some power => cases point

theorem digits_append {text : List Char} (h : ∀ c ∈ text, c.isDigit) (hrest : EndsDigits rest) :
    digits (text ++ rest) = .ok (text, rest) := by
  have stops : rest.takeWhile Char.isDigit = [] ∧ rest.dropWhile Char.isDigit = rest := by
    cases rest with
    | nil => exact ⟨rfl, rfl⟩
    | cons c rest => simp [hrest c rfl]
  rw [digits, List.takeWhile_append_of_pos h, List.dropWhile_append_of_pos h, stops.1, stops.2, List.append_nil]

theorem wholeDigits_append {whole : List Char} (some_digit : whole ≠ []) (h : ∀ c ∈ whole, c.isDigit)
    (single : whole.head? = some '0' → whole = ['0']) (hrest : EndsDigits rest) :
    wholeDigits (whole ++ rest) = .ok (whole, rest) := by
  obtain ⟨c, whole, rfl⟩ := List.exists_cons_of_ne_nil some_digit
  by_cases zero : c = '0'
  · subst zero
    cases single rfl
    have alone : rest.head?.any Char.isDigit = false := by
      cases rest with
      | nil => rfl
      | cons c rest => exact hrest c rfl
    simp [wholeDigits, alone]
  · have digit : c.isDigit := h c (.head _)
    unfold wholeDigits
    split
    · next none => cases none
    · next first => cases first; exact absurd rfl zero
    · next first =>
      cases first
      rw [if_pos digit]
      exact digits_append h hrest

theorem fractionDigits_append {fraction : List Char} (h : ∀ c ∈ fraction, c.isDigit) (hrest : EndsDigits rest)
    (no_point : rest.head? ≠ some '.') : fractionDigits (Parts.point fraction ++ rest) = .ok (fraction, rest) := by
  cases fraction with
  | nil =>
      rw [Parts.point, if_pos rfl, List.nil_append]
      unfold fractionDigits
      split
      · exact absurd rfl no_point
      · exact absurd rfl no_point
      · rfl
  | cons c fraction =>
      have digit : c.isDigit := h c (.head _)
      have all := digits_append h hrest
      rw [List.cons_append] at all
      simp [Parts.point, fractionDigits, digit, all]

theorem exponentDigits_append {text : List Char} (h : ∀ c ∈ text, c.isDigit) (hrest : EndsDigits rest) {value : Nat}
    (small : Nat.ofDigitChars 10 text value ≤ maxExponent) :
    exponentDigits value (text ++ rest) = (some (Nat.ofDigitChars 10 text value), rest) := by
  induction text generalizing value with
  | nil =>
      cases rest with
      | nil => rfl
      | cons c rest => simp [exponentDigits, hrest c rfl]
  | cons c text ih =>
      rw [Nat.ofDigitChars_cons] at small ⊢
      have step : 10 * value + digitValue c ≤ maxExponent := (le_ofDigitChars text _).trans small
      rw [List.cons_append, exponentDigits, if_pos (h c (.head _)), if_pos step]
      exact ih (fun c hc => h c (.tail _ hc)) small

theorem exponent_append {power : Int} (small : power.natAbs ≤ maxExponent) (hrest : EndsDigits rest)
    (significand : Nat) : exponent significand
        ((if power < 0 then '-' else '+') :: (Nat.toDigits 10 power.natAbs ++ rest)) = .ok (power, rest) := by
  obtain ⟨c, digits, written⟩ := List.exists_cons_of_ne_nil (Nat.toDigits_ne_nil (b := 10) (n := power.natAbs))
  have every : ∀ d ∈ c :: digits, d.isDigit := fun d hd => isDigit_of_mem_toDigits (written ▸ hd)
  have value : Nat.ofDigitChars 10 digits (digitValue c) = power.natAbs := by
    have all := Nat.ofDigitChars_ten_toDigits (n := power.natAbs)
    rwa [written, Nat.ofDigitChars_cons, Nat.mul_zero, Nat.zero_add] at all
  have taken := exponentDigits_append (fun d hd => every d (.tail _ hd)) hrest (value ▸ small)
  have sign : exponentSign ((if power < 0 then '-' else '+') :: (Nat.toDigits 10 power.natAbs ++ rest)) =
      .ok (decide (power < 0), Nat.toDigits 10 power.natAbs ++ rest) := by
    by_cases negative : power < 0
    · rw [if_pos negative, decide_eq_true negative]
      rfl
    · rw [if_neg negative, decide_eq_false negative]
      rfl
  refine (bind_of_ok sign _).trans ?_
  simp only [written, List.cons_append, every c (.head _), if_true, taken, value, decide_eq_true_eq]
  have back : (if power < 0 then -(power.natAbs : Int) else power.natAbs) = power := by
    split <;> omega
  rw [back]

theorem exponent?_append {power : Option Int} (small : ∀ p ∈ power, p.natAbs ≤ maxExponent) (hrest : Follows rest)
    (significand : Nat) : exponent? significand (Parts.raise power ++ rest) = .ok (power, rest) := by
  cases power with
  | none =>
      cases rest with
      | nil => rfl
      | cons c rest => rcases hrest c rfl with rfl | rfl | rfl <;> rfl
  | some power =>
      have taken := exponent_append (small power rfl) hrest.endsDigits significand
      exact bind_of_ok taken _

/-- The sign in front of a number. -/
def sign (negative : Bool) : List Char :=
  if negative then ['-'] else []

theorem minus_append {c : Char} (h : c ≠ '-') (negative : Bool) (rest : List Char) :
    minus (sign negative ++ c :: rest) = .ok (negative, c :: rest) := by
  cases negative with
  | true => rfl
  | false =>
      unfold minus sign
      split
      · next first => cases first; exact absurd rfl h
      · rfl

variable {parts : Parts}

/-- A number is read to its end, and its value is what its digits are once they are scaled. -/
theorem number_text (proper : parts.Proper) (fits : parts.significand ≤ maxSignificand)
    (small : ∀ p ∈ parts.power, p.natAbs ≤ maxExponent) (hrest : Follows rest) (negative : Bool) :
    number (sign negative ++ (parts.text ++ rest)) =
      match scale? (Float.ofNat parts.significand) parts.exponent with
      | some value => .ok (.decimal (signed negative value), rest)
      | none => failHere .numberOutOfRange rest := by
  have ends := endsDigits_raise parts.power hrest.endsDigits
  have minus : minus (sign negative ++ (parts.text ++ rest)) = .ok (negative, parts.text ++ rest) := by
    obtain ⟨c, whole, first⟩ := List.exists_cons_of_ne_nil proper.whole_ne_nil
    have digit : c.isDigit := proper.whole c (first ▸ List.mem_cons_self)
    simp only [Parts.text, first, List.cons_append]
    refine minus_append ?_ negative _
    rintro rfl
    cases digit
  have whole := wholeDigits_append proper.whole_ne_nil proper.whole proper.single
    (endsDigits_point parts.fraction ends)
  have fraction := fractionDigits_append proper.fraction ends (head?_raise parts.power hrest)
  have power := exponent?_append small hrest parts.significand
  have joined : parts.significand = Nat.ofDigitChars 10 parts.fraction (Nat.ofDigitChars 10 parts.whole 0) :=
    Nat.ofDigitChars_append 0
  have gathered := absorb_of_le ((le_ofDigitChars parts.fraction _).trans (joined ▸ fits))
  have all := absorb_of_le (joined ▸ fits)
  rw [← joined] at all
  refine (bind_of_ok minus _).trans ?_
  rw [Parts.text, List.append_assoc, List.append_assoc]
  refine (bind_of_ok whole _).trans ?_
  refine (bind_of_ok fraction _).trans ?_
  simp only [gathered, all]
  refine (bind_of_ok power _).trans ?_
  have decimal : ¬ (True ∧ parts.fraction = [] ∧ parts.power = none) := by
    intro ⟨_, no_fraction, no_power⟩
    exact proper.decimal.elim (fun fraction => fraction no_fraction) (fun power => power no_power)
  have exponent : ((([] : List Char).length : Int) - (parts.fraction.length - ([] : List Char).length : Nat) +
      parts.power.getD 0) = parts.exponent := by
    simp [Parts.exponent]
    omega
  rw [if_neg decimal, exponent]
  cases scale? (Float.ofNat parts.significand) parts.exponent <;> rfl

/-- A number starts with a sign or with a digit, and nothing else starts so. -/
theorem ne_of_starts {c letter : Char} (h : c = '-' ∨ c.isDigit) (minus : letter ≠ '-')
    (digit : letter.isDigit = false) : c ≠ letter := by
  intro same
  subst same
  rcases h with mark | mark
  · exact minus mark
  · rw [digit] at mark
    cases mark

theorem value_eq_number {c : Char} (h : c = '-' ∨ c.isDigit) (room : Nat) (rest : List Char) :
    value room (c :: rest) = (Json.number <$> number : Reader Json) (c :: rest) := by
  have other := @ne_of_starts c
  have visible : isSpace c = false := by
    simp [isSpace, other h (by decide : ' ' ≠ '-') rfl, other h (by decide : '\n' ≠ '-') rfl,
      other h (by decide : '\t' ≠ '-') rfl, other h (by decide : '\r' ≠ '-') rfl]
  rw [value_eq_scalar visible (other h (by decide) rfl) (other h (by decide) rfl)]
  simp [scalar, other h (by decide : 'n' ≠ '-') rfl, other h (by decide : 't' ≠ '-') rfl,
    other h (by decide : 'f' ≠ '-') rfl, h]

end Reader

/-! ## The numbers of a document -/

/-- What a finite number reads as once it is written: its digits as one whole number, scaled once. -/
def Number.reread? (value : Float) : Option Float :=
  let d := Decimal.shortest .even value
  (scale? (Float.ofNat (d.significand * 10 ^ d.padding)) (d.exponent - d.padding)).map
    (signed (Layout.isNegative value))

theorem length_toDigits_shortest (value : Float) :
    (Nat.toDigits 10 (Decimal.shortest .even value).significand).length ≤ 18 := by
  have small := Binary.shortest_significand_le (Binary.ofFloat_stored value) .even
  exact (Nat.length_toDigits_le_iff (by decide) (by decide)).2 (small.trans_lt (by decide))

theorem write_decimal {value : Float} (finite : value.isFinite) : (Number.decimal value).write =
    Reader.sign (Layout.isNegative value) ++ (Parts.ofDigits (Decimal.shortest .even value)).text := by
  rw [Number.write, if_pos finite, Layout.writeFinite, ← Parts.writeDigits_eq_text]
  unfold Reader.sign Layout.document
  split <;> rfl

theorem shortest_proper (value : Float) : (Parts.ofDigits (Decimal.shortest .even value)).Proper := by
  refine Parts.ofDigits_proper ?_
  by_cases zero : (Binary.ofFloat value).significand = 0
  · right
    rw [Decimal.shortest, Binary.shortest_zero zero]
  · exact .inl (Nat.ne_of_gt (Binary.shortest_pos (Binary.ofFloat_stored value) zero .even))

/-- A number starts with its sign or with a digit. -/
theorem exists_write_eq_cons {value : Float} (finite : value.isFinite) :
    ∃ c after, (Number.decimal value).write = c :: after ∧ (c = '-' ∨ c.isDigit) := by
  have proper := shortest_proper value
  obtain ⟨c, whole, first⟩ := List.exists_cons_of_ne_nil proper.whole_ne_nil
  have digit : c.isDigit := proper.whole c (first ▸ List.mem_cons_self)
  rw [write_decimal finite, Parts.text, first, List.cons_append]
  unfold Reader.sign
  split
  · exact ⟨'-', _, rfl, .inl rfl⟩
  · exact ⟨c, _, rfl, .inr digit⟩

theorem number_write {value : Float} (finite : value.isFinite) {rest : List Char} (hrest : Reader.Follows rest) :
    (Reader.number ((Number.decimal value).write ++ rest)).toOption =
      (Number.reread? value).map fun read => (.decimal read, rest) := by
  have stored := Binary.ofFloat_stored value
  obtain ⟨significand, exponent⟩ := Parts.value_ofDigits (Decimal.shortest .even value)
  have fits : (Parts.ofDigits (Decimal.shortest .even value)).significand ≤ maxSignificand := by
    rw [significand]
    exact (Digits.mul_padding_le (Binary.shortest_significand_le stored .even)).trans (by decide)
  have small : ∀ power ∈ (Parts.ofDigits (Decimal.shortest .even value)).power, power.natAbs ≤ maxExponent := by
    intro power hpower
    have digits := length_toDigits_shortest value
    have grid := Binary.shortest_exponent_le stored .even
    have wide : maxExponent = 2147483647 := rfl
    rw [Parts.power_ofDigits _ power hpower, wide]
    unfold Decimal.shortest at digits ⊢
    omega
  rw [write_decimal finite, List.append_assoc, Reader.number_text (shortest_proper value) fits small hrest, significand, exponent,
    Number.reread?]
  cases scale? _ _ <;> rfl

/-- A finite number reads as its digits scaled, wherever it stands. -/
theorem reads_value_number (room : Nat) {value : Float} (finite : value.isFinite) :
    Reader.Reads (Reader.value room) (Json.number (.decimal value)).write
      ((Number.reread? value).map fun read => .number (.decimal read)) := by
  intro rest hrest
  obtain ⟨c, after, first, mark⟩ := exists_write_eq_cons finite
  have shown : Reader.value room ((Json.number (.decimal value)).write ++ rest) =
      (Json.number <$> Reader.number : Reader Json) ((Number.decimal value).write ++ rest) := by
    rw [write, first, List.cons_append, Reader.value_eq_number mark]
  rw [shown, Reader.map_eq_bind, Reader.toOption_bind, number_write finite hrest]
  cases Number.reread? value <;> rfl

/-- The text of a number, decoded on its own, gives this number. -/
def Number.DecodesTo (value : Float) (number : Number) : Prop :=
  Reader.readWhole (Reader.value Reader.maxNesting) (Number.decimal value).write = .ok (.number number)

theorem Number.decodesTo_iff {value : Float} (finite : value.isFinite) {number : Number} :
    Number.DecodesTo value number ↔ ∃ read, Number.reread? value = some read ∧ .decimal read = number := by
  have alone := (reads_value_number Reader.maxNesting finite).readWhole
  have ok_iff : ∀ result : Except Fault Json, result = .ok (.number number) ↔
      result.toOption = some (.number number) := by
    intro result
    cases result <;> simp [Except.toOption]
  rw [DecodesTo, ok_iff, ← Json.write, alone, Option.map_eq_some_iff]
  exact exists_congr fun read => and_congr_right' (by rw [Json.number.injEq])

end CarbonSurvey.Json
