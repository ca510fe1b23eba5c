import CarbonSurvey.Decimal.Layout
import Mathlib.Algebra.Ring.Nat
import Mathlib.Data.List.Basic

/-! # The parts of a written number

A number in a document is made of digits before the point, digits after it and perhaps a power of ten.
`Parts.ofDigits` takes the parts apart that the layout of documents puts together (`writeDigits_eq_text`), says of
which shape they are (`ofDigits_proper`) and which number they stand for (`value_ofDigits`): the shortest digits,
with a zero more for each place up to the point and the one after it.
-/

namespace CarbonSurvey.Decimal

theorem isDigit_of_mem_toDigits {c : Char} {n : Nat} (h : c ∈ Nat.toDigits 10 n) : c.isDigit :=
  Nat.isDigit_of_mem_toDigits (by decide) (by decide) h

/-- Only zero starts with a zero. -/
theorem head?_toDigits_ne_zero {n : Nat} (h : n ≠ 0) : (Nat.toDigits 10 n).head? ≠ some '0' := by
  induction n using Nat.strongRecOn with
  | ind n ih =>
    by_cases single : n < 10
    · have first : ∀ digit < 10, digit ≠ 0 → [Nat.digitChar digit].head? ≠ some '0' := by decide
      rw [Nat.toDigits_of_lt_base single]
      exact first n single h
    · rw [Nat.toDigits_of_base_le (by decide) (Nat.le_of_not_lt single),
        List.head?_append_of_ne_nil _ Nat.toDigits_ne_nil]
      exact ih (n / 10) (by omega) (by omega)

/-- Whether a number is written up to its point with zeros after its digits. -/
def Digits.padded (d : Digits) : Bool :=
  Layout.document.positional ((Nat.toDigits 10 d.significand).length + d.exponent - 1) && 0 ≤ d.exponent

/-- How many zeros are written after the digits: those up to the point, and the one after it. -/
def Digits.padding (d : Digits) : Nat :=
  if d.padded then d.exponent.toNat + 1 else 0

/-- The digits as a document writes them, with the zeros up to the point and after it, make a significand and a
    power of ten that are both doubles. -/
def Digits.Short (d : Digits) : Prop :=
  d.significand * 10 ^ d.padding < 2 ^ 53 ∧ (d.exponent - d.padding).natAbs ≤ 22

instance (d : Digits) : Decidable d.Short :=
  inferInstanceAs (Decidable (_ ∧ _))

/-- The zeros never make a number longer than seventeen digits. -/
theorem Digits.mul_padding_le {d : Digits} (h : d.significand ≤ 10 ^ 17) :
    d.significand * 10 ^ d.padding ≤ 10 ^ 17 := by
  unfold padding
  split
  · next padded =>
    have below : d.significand < 10 ^ (Nat.toDigits 10 d.significand).length :=
      (Nat.length_toDigits_le_iff (by decide) (List.length_pos_iff.2 Nat.toDigits_ne_nil)).1 (Nat.le_refl _)
    simp only [Digits.padded, Layout.document, Bool.and_eq_true, decide_eq_true_eq] at padded
    obtain ⟨⟨-, upper⟩, whole⟩ := padded
    calc d.significand * 10 ^ (d.exponent.toNat + 1)
        ≤ 10 ^ (Nat.toDigits 10 d.significand).length * 10 ^ (d.exponent.toNat + 1) :=
          Nat.mul_le_mul_right _ (Nat.le_of_lt below)
      _ = 10 ^ ((Nat.toDigits 10 d.significand).length + (d.exponent.toNat + 1)) := (Nat.pow_add _ _ _).symm
      _ ≤ 10 ^ 17 := Nat.pow_le_pow_right (by decide) (by omega)
  · simpa using h

/-- The parts of a number in a document. -/
structure Parts where
  whole : List Char
  fraction : List Char
  power : Option Int
  deriving Repr, DecidableEq

namespace Parts

/-- The digits after the point, with the point if there are any. -/
def point (fraction : List Char) : List Char :=
  if fraction = [] then [] else '.' :: fraction

/-- The power of ten with its mark and its sign. -/
def raise : Option Int → List Char
  | none => []
  | some power => 'e' :: (if power < 0 then '-' else '+') :: Nat.toDigits 10 power.natAbs

def text (parts : Parts) : List Char :=
  parts.whole ++ (point parts.fraction ++ raise parts.power)

/-- All digits as one whole number. -/
def significand (parts : Parts) : Nat :=
  Nat.ofDigitChars 10 (parts.whole ++ parts.fraction) 0

/-- The power of ten that the whole number is to be multiplied by. -/
def exponent (parts : Parts) : Int :=
  parts.power.getD 0 - parts.fraction.length

/-- The parts of a number whose point comes after so many digits. -/
def placed (digits : List Char) (places : Int) : Parts :=
  if places ≤ 0 then
    ⟨['0'], List.replicate (-places).toNat '0' ++ digits, none⟩
  else if digits.length ≤ places then
    ⟨digits ++ List.replicate (places.toNat - digits.length) '0', ['0'], none⟩
  else
    ⟨digits.take places.toNat, digits.drop places.toNat, none⟩

/-- The parts of a number with one digit before the point. -/
def raised (digits : List Char) (power : Int) : Parts :=
  ⟨digits.take 1, digits.drop 1, some power⟩

/-- The parts of the number with these digits. -/
def ofDigits (d : Digits) : Parts :=
  let digits := Nat.toDigits 10 d.significand
  let power : Int := digits.length + d.exponent - 1
  if Layout.document.positional power then placed digits (power + 1) else raised digits power

variable {digits : List Char}

theorem placePoint_eq_text (h : digits ≠ []) (places : Int) :
    Layout.placePoint ['.', '0'] digits places = (placed digits places).text := by
  unfold Layout.placePoint placed
  split
  · simp [text, point, raise, h]
  · split
    · simp [text, point, raise]
    · have remaining : digits.drop places.toNat ≠ [] := by
        rw [Ne, List.drop_eq_nil_iff]
        omega
      simp [text, point, raise, remaining]

theorem withExponent_eq_text (digits : List Char) (power : Int) :
    Layout.withExponent digits power = (raised digits power).text := by
  unfold Layout.withExponent raised
  cases digits with
  | nil => rfl
  | cons d ds => cases ds <;> simp [text, point, raise]

theorem writeDigits_eq_text (d : Digits) : Layout.document.writeDigits d = (ofDigits d).text := by
  simp only [Layout.writeDigits, ofDigits]
  split
  · exact placePoint_eq_text Nat.toDigits_ne_nil _
  · exact withExponent_eq_text _ _

/-! ## Shape -/

/-- Digits stand where digits belong, a zero in front stands alone, and a point or a power tells the number from a
    whole one. -/
structure Proper (parts : Parts) : Prop where
  whole_ne_nil : parts.whole ≠ []
  whole : ∀ c ∈ parts.whole, c.isDigit
  fraction : ∀ c ∈ parts.fraction, c.isDigit
  single : parts.whole.head? = some '0' → parts.whole = ['0']
  decimal : parts.fraction ≠ [] ∨ parts.power ≠ none

theorem isDigit_of_mem_replicate (n : Nat) : ∀ c ∈ List.replicate n '0', c.isDigit := by
  intro c hc
  rw [List.eq_of_mem_replicate hc]
  rfl

theorem placed_proper (h : digits ≠ []) (hdigits : ∀ c ∈ digits, c.isDigit) {places : Int}
    (zero : digits.head? = some '0' → digits = ['0'] ∧ places ≤ 1) : (placed digits places).Proper := by
  have zeros := isDigit_of_mem_replicate
  have whole := List.forall_mem_append.2 ⟨hdigits, zeros (places.toNat - digits.length)⟩
  have fraction := List.forall_mem_append.2 ⟨zeros (-places).toNat, hdigits⟩
  unfold placed
  split
  · exact ⟨List.cons_ne_nil _ _, by simp, fraction, fun _ => rfl, .inl (by simp [h])⟩
  · split
    · refine ⟨by simp [h], whole, by simp, fun first => ?_, .inl (by simp)⟩
      rw [List.head?_append_of_ne_nil _ h] at first
      obtain ⟨rfl, one⟩ := zero first
      have none : places.toNat - 1 = 0 := by omega
      simp [none]
    · have taken : places.toNat ≠ 0 := by omega
      have left : digits.drop places.toNat ≠ [] := by
        rw [Ne, List.drop_eq_nil_iff]
        omega
      refine ⟨by simp [h, taken], fun c hc => hdigits c (List.mem_of_mem_take hc),
        fun c hc => hdigits c (List.mem_of_mem_drop hc), fun first => ?_, .inl left⟩
      rw [List.head?_take, if_neg taken] at first
      obtain ⟨rfl, one⟩ := zero first
      exact absurd (List.drop_eq_nil_iff.2 (by simp; omega)) left

theorem raised_proper (h : digits ≠ []) (hdigits : ∀ c ∈ digits, c.isDigit) (power : Int)
    (zero : digits.head? = some '0' → digits = ['0']) : (raised digits power).Proper := by
  refine ⟨by simp [raised, h], fun c hc => hdigits c (List.mem_of_mem_take hc),
    fun c hc => hdigits c (List.mem_of_mem_drop hc), fun first => ?_, .inr (Option.some_ne_none power)⟩
  rw [raised, List.head?_take, if_neg Nat.one_ne_zero] at first
  rw [raised, zero first]
  rfl

theorem ofDigits_proper {d : Digits} (h : d.significand ≠ 0 ∨ d.exponent = 0) : (ofDigits d).Proper := by
  have digits : ∀ c ∈ Nat.toDigits 10 d.significand, c.isDigit := fun c hc => isDigit_of_mem_toDigits hc
  have zero : (Nat.toDigits 10 d.significand).head? = some '0' →
      Nat.toDigits 10 d.significand = ['0'] ∧ d.exponent = 0 := by
    intro first
    by_cases nothing : d.significand = 0
    · rw [nothing, Nat.toDigits_zero]
      exact ⟨rfl, h.resolve_left (not_not_intro nothing)⟩
    · exact absurd first (head?_toDigits_ne_zero nothing)
  simp only [ofDigits]
  split
  · refine placed_proper Nat.toDigits_ne_nil digits fun first => ?_
    obtain ⟨single, even⟩ := zero first
    refine ⟨single, ?_⟩
    rw [single, even]
    decide
  · exact raised_proper Nat.toDigits_ne_nil digits _ fun first => (zero first).1

/-! ## Value -/

theorem value_placed_of_neg {exponent : Int} (h : exponent < 0) :
    (placed digits (digits.length + exponent)).significand = Nat.ofDigitChars 10 digits 0 ∧
      (placed digits (digits.length + exponent)).exponent = exponent := by
  unfold placed
  split
  · simp [significand, Parts.exponent, Nat.ofDigitChars_append, Nat.ofDigitChars_cons]
    omega
  · rw [if_neg (by omega)]
    simp [significand, Parts.exponent]
    omega

theorem value_placed_of_nonneg (some_digit : digits ≠ []) {exponent : Int} (h : 0 ≤ exponent) :
    (placed digits (digits.length + exponent)).significand =
        Nat.ofDigitChars 10 digits 0 * 10 ^ (exponent.toNat + 1) ∧
      (placed digits (digits.length + exponent)).exponent = -1 := by
  have some_place := List.length_pos_iff.2 some_digit
  have filled : (digits.length + exponent).toNat - digits.length = exponent.toNat := by omega
  rw [placed, if_neg (by omega), if_pos (by omega), filled]
  refine ⟨?_, rfl⟩
  simp only [significand, Nat.ofDigitChars_append, Nat.ofDigitChars_replicate_zero, Nat.ofDigitChars_cons,
    Nat.ofDigitChars_nil, Nat.sub_self, Nat.add_zero]
  rw [Nat.mul_comm _ (10 ^ (exponent.toNat + 1)), Nat.pow_succ', Nat.mul_assoc]

theorem value_raised (some_digit : digits ≠ []) (exponent : Int) :
    (raised digits (digits.length + exponent - 1)).significand = Nat.ofDigitChars 10 digits 0 ∧
      (raised digits (digits.length + exponent - 1)).exponent = exponent := by
  have some_place := List.length_pos_iff.2 some_digit
  simp [raised, significand, Parts.exponent, -List.drop_one]
  omega

/-- The number that the parts stand for. -/
theorem value_ofDigits (d : Digits) : (ofDigits d).significand = d.significand * 10 ^ d.padding ∧
    (ofDigits d).exponent = d.exponent - d.padding := by
  have value : Nat.ofDigitChars 10 (Nat.toDigits 10 d.significand) 0 = d.significand :=
    Nat.ofDigitChars_ten_toDigits
  have some_digit : Nat.toDigits 10 d.significand ≠ [] := Nat.toDigits_ne_nil
  simp only [ofDigits, Digits.padding, Digits.padded, Int.sub_add_cancel]
  by_cases positional :
      Layout.document.positional ((Nat.toDigits 10 d.significand).length + d.exponent - 1) = true
  · by_cases whole : 0 ≤ d.exponent
    · have placed := value_placed_of_nonneg some_digit whole
      simp only [positional, whole, decide_true, Bool.and_self, if_true]
      rw [value] at placed
      exact ⟨placed.1, placed.2.trans (by omega)⟩
    · have placed := @value_placed_of_neg (Nat.toDigits 10 d.significand) _ (Int.not_le.1 whole)
      simpa [positional, whole, value] using placed
  · have raised := value_raised some_digit d.exponent
    simpa [positional, value] using raised

/-- A power of ten is only written as that of the first digit. -/
theorem power_ofDigits (d : Digits) : ∀ power ∈ (ofDigits d).power,
    power = (Nat.toDigits 10 d.significand).length + d.exponent - 1 := by
  intro power hpower
  simp only [ofDigits] at hpower
  split at hpower
  · unfold placed at hpower
    split at hpower
    · cases hpower
    · split at hpower <;> cases hpower
  · cases hpower
    rfl

end Parts

end CarbonSurvey.Decimal
