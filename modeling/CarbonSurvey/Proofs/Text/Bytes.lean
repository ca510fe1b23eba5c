import CarbonSurvey.Text.Position
import Mathlib.Tactic.SplitIfs

/-! # The bytes of a text

A text is stored as the bytes of its characters. The byte of a newline is a byte of no other character
(`newline_mem_encoded_iff`), and two texts come in the order of their bytes (`bytes_lt_bytes`).
-/

namespace CarbonSurvey.Text

/-- The bytes of a text. -/
def bytes (text : List Char) : List UInt8 :=
  text.flatMap String.utf8EncodeChar

theorem bytes_toList (text : String) : bytes text.toList = text.toUTF8.data.toList := by
  have stored : text.toUTF8 = text.toList.utf8Encode := by
    rw [String.toUTF8_eq_toByteArray, String.utf8Encode_toList]
  rw [stored, List.utf8Encode, List.toList_data_toByteArray, bytes]

@[simp]
theorem bytes_nil : bytes [] = [] := rfl

@[simp]
theorem bytes_cons (c : Char) (text : List Char) : bytes (c :: text) = String.utf8EncodeChar c ++ bytes text := rfl

@[simp]
theorem bytes_append (left right : List Char) : bytes (left ++ right) = bytes left ++ bytes right :=
  List.flatMap_append

@[simp]
theorem length_bytes (text : List Char) : (bytes text).length = byteLength text := by
  induction text with
  | nil => rfl
  | cons c text ih => rw [bytes_cons, List.length_append, String.length_utf8EncodeChar, ih, byteLength_cons]

/-- The bytes of the character with a code, as numbers. -/
def units (code : Nat) : List Nat :=
  if code ≤ 0x7F then [code]
  else if code ≤ 0x7FF then [code / 64 % 32 + 192, code % 64 + 128]
  else if code ≤ 0xFFFF then [code / 4096 % 16 + 224, code / 64 % 64 + 128, code % 64 + 128]
  else [code / 262144 % 8 + 240, code / 4096 % 64 + 128, code / 64 % 64 + 128, code % 64 + 128]

theorem encoded_eq (c : Char) : String.utf8EncodeChar c = (units c.toNat).map UInt8.ofNat := by
  change String.utf8EncodeChar c = (units c.val.toNat).map UInt8.ofNat
  unfold String.utf8EncodeChar units
  dsimp only
  split_ifs <;> rfl

theorem unit_lt (code : Nat) : ∀ unit ∈ units code, unit < 256 := by
  intro unit h
  unfold units at h
  split_ifs at h <;> (simp only [List.mem_cons, List.not_mem_nil, or_false] at h; omega)

theorem toNat_ofNat_unit {unit : Nat} (h : unit < 256) : (UInt8.ofNat unit).toNat = unit := by
  rw [UInt8.toNat_ofNat', Nat.mod_eq_of_lt h]

/-! ## Newlines -/

/-- The byte of a newline. -/
def newline : UInt8 := 10

theorem newline_mem_encoded_iff (c : Char) : newline ∈ String.utf8EncodeChar c ↔ c = '\n' := by
  constructor
  · intro h
    rw [encoded_eq] at h
    obtain ⟨unit, hunit, same⟩ := List.mem_map.1 h
    have value := congrArg UInt8.toNat same
    rw [toNat_ofNat_unit (unit_lt _ unit hunit)] at value
    change unit = 10 at value
    subst value
    have code : c.toNat = 10 := by
      unfold units at hunit
      split_ifs at hunit <;> (simp only [List.mem_cons, List.not_mem_nil, or_false] at hunit; omega)
    exact Char.toNat_inj.1 code
  · rintro rfl
    decide

/-! ## The order of bytes -/

/-- The numbers differ before either list ends, and where they first do they are in order. -/
def Precedes : List Nat → List Nat → Prop
  | x :: left, y :: right => x < y ∨ x = y ∧ Precedes left right
  | _, _ => False

theorem Precedes.lt {left right : List Nat} (h : Precedes left right) (small : ∀ unit ∈ right, unit < 256)
    (after after' : List UInt8) : left.map UInt8.ofNat ++ after < right.map UInt8.ofNat ++ after' := by
  induction left generalizing right with
  | nil => exact h.elim
  | cons x left ih =>
      cases right with
      | nil => exact h.elim
      | cons y right =>
          obtain ⟨small_first, small_others⟩ := List.forall_mem_cons.1 small
          rcases h with less | ⟨rfl, others⟩
          · refine .rel (UInt8.lt_iff_toNat_lt.2 ?_)
            rw [toNat_ofNat_unit small_first, toNat_ofNat_unit (Nat.lt_trans less small_first)]
            exact less
          · exact .cons (ih others small_others)

theorem units_precedes {code other : Nat} (h : code < other) (valid : other < 0x110000) :
    Precedes (units code) (units other) := by
  have second : ∀ n, n / 4096 = n / 64 / 64 := fun n => (Nat.div_div_eq_div_mul n 64 64).symm
  have third : ∀ n, n / 262144 = n / 64 / 64 / 64 := fun n => by
    rw [Nat.div_div_eq_div_mul, Nat.div_div_eq_div_mul]
  unfold units
  simp only [second, third]
  split_ifs <;> simp only [Precedes] <;> omega

/-- Texts that come in the order of their characters come in the order of their bytes. -/
theorem bytes_lt_bytes {left right : List Char} (h : left < right) : bytes left < bytes right := by
  induction h with
  | @nil c right =>
      obtain ⟨first, others, shape⟩ := List.exists_cons_of_ne_nil (String.utf8EncodeChar_ne_nil (c := c))
      rw [bytes_nil, bytes_cons, shape]
      exact .nil
  | @cons c left right _ ih => exact List.append_left_lt ih
  | @rel c left d right h =>
      have valid : d.toNat < 0x110000 := by
        rcases d.valid with low | ⟨-, high⟩
        · exact Nat.lt_trans low (by decide)
        · exact high
      rw [bytes_cons, bytes_cons, encoded_eq, encoded_eq]
      exact (units_precedes h valid).lt (unit_lt _) _ _

end CarbonSurvey.Text
