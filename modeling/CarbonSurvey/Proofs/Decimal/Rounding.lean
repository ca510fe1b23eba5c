import CarbonSurvey.Proofs.Decimal.Shortest
import Mathlib

/-! # Rounding to the nearest double

The residual bits of a mantissa say where the exact value lies between two mantissas (`Shows`), and they still do
after bits were shifted out. So a value is rounded to the double whose interval it is in, ties to even
(`roundWithAccuracy_eq`).
-/

namespace CarbonSurvey.Decimal

open Float.Model Float.Model.UnpackedFloat

/-- The mantissa is the whole part of an exact value, and the residual bits place the rest of it. -/
inductive Shows : ExtendedMantissa → ℚ → Prop where
  | exact {m : Nat} {y : ℚ} (value : y = m) : Shows ⟨m, false, false⟩ y
  | lower {m : Nat} {y : ℚ} (low : m < y) (high : y < m + 1 / 2) : Shows ⟨m, false, true⟩ y
  | half {m : Nat} {y : ℚ} (value : y = m + 1 / 2) : Shows ⟨m, true, false⟩ y
  | upper {m : Nat} {y : ℚ} (low : m + 1 / 2 < y) (high : y < m + 1) : Shows ⟨m, true, true⟩ y

theorem shiftRightOne_even (m : Nat) (r s : Bool) :
    ExtendedMantissa.shiftRightOne ⟨2 * m, r, s⟩ = ⟨m, false, r || s⟩ := by
  simp [ExtendedMantissa.shiftRightOne]

theorem shiftRightOne_odd (m : Nat) (r s : Bool) :
    ExtendedMantissa.shiftRightOne ⟨2 * m + 1, r, s⟩ = ⟨m, true, r || s⟩ := by
  simp [ExtendedMantissa.shiftRightOne]
  omega

namespace Shows

variable {em : ExtendedMantissa} {y : ℚ}

theorem shiftRightOne (h : Shows em y) : Shows em.shiftRightOne (y / 2) := by
  obtain ⟨m, round, sticky⟩ := em
  obtain ⟨half, rfl | rfl⟩ := Nat.even_or_odd' m
  · rw [shiftRightOne_even]
    cases h with
    | exact value =>
        push_cast at value
        exact .exact (by linarith)
    | lower low high =>
        push_cast at low high
        exact .lower (by linarith) (by linarith)
    | half value =>
        push_cast at value
        exact .lower (by linarith) (by linarith)
    | upper low high =>
        push_cast at low high
        exact .lower (by linarith) (by linarith)
  · rw [shiftRightOne_odd]
    cases h with
    | exact value =>
        push_cast at value
        exact .half (by linarith)
    | lower low high =>
        push_cast at low high
        exact .upper (by linarith) (by linarith)
    | half value =>
        push_cast at value
        exact .upper (by linarith) (by linarith)
    | upper low high =>
        push_cast at low high
        exact .upper (by linarith) (by linarith)

theorem shiftRight (h : Shows em y) (n : Nat) : Shows (em >>> n) (y / 2 ^ n) := by
  induction n with
  | zero =>
      rw [pow_zero, div_one]
      exact h
  | succ n ih =>
      have halved := ih.shiftRightOne
      rw [div_div, ← pow_succ] at halved
      exact halved

/-- The mantissa is the whole part. -/
theorem bounds (h : Shows em y) : em.mantissa ≤ y ∧ y < em.mantissa + 1 := by
  cases h <;> constructor <;> dsimp only <;> linarith

/-- A value is rounded to the nearest mantissa, and from halfway to an even one. -/
theorem roundedMantissa_eq (h : Shows em y) {m : Nat} (low : (m : ℚ) - 1 / 2 ≤ y) (high : y ≤ m + 1 / 2)
    (odd : m % 2 = 1 → (m : ℚ) - 1 / 2 < y ∧ y < m + 1 / 2) : em.roundedMantissa = m := by
  cases h with
  | @exact whole y value =>
      have above : (m : ℚ) < whole + 1 := by linarith
      have below : (whole : ℚ) < m + 1 := by linarith
      norm_cast at above below
      exact Nat.le_antisymm (Nat.le_of_lt_succ below) (Nat.le_of_lt_succ above)
  | @lower whole y left right =>
      have above : (m : ℚ) < whole + 1 := by linarith
      have below : (whole : ℚ) < m + 1 := by linarith
      norm_cast at above below
      exact Nat.le_antisymm (Nat.le_of_lt_succ below) (Nat.le_of_lt_succ above)
  | @upper whole y left right =>
      have above : (m : ℚ) < whole + 2 := by linarith
      have below : (whole : ℚ) < m := by linarith
      norm_cast at above below
      exact Nat.le_antisymm below (Nat.le_of_lt_succ above)
  | @half whole y value =>
      have above : (m : ℚ) < whole + 2 := by linarith
      have below : (whole : ℚ) < m + 1 := by linarith
      have tie : m % 2 = 1 → (m : ℚ) < whole + 1 ∧ (whole : ℚ) < m := fun h => by
        obtain ⟨left, right⟩ := odd h
        exact ⟨by linarith, by linarith⟩
      norm_cast at above below tie
      change whole + whole % 2 = m
      omega

end Shows

/-! ## Rounding a result -/

theorem targetExponent_eq (m : Nat) (e : Int) :
    Format.binary64.targetExponent (totalExponent m e) = max (m.log2 + e - 52) (-1074) := by
  simp only [Format.targetExponent, totalExponent, Format.mantissaBits, Format.minExponent]
  norm_num
  omega

namespace Binary

/-- What a positive double stores. -/
structure Normalized (b : Binary) : Prop where
  pos : 0 < b.significand
  significand_lt : b.significand < 2 ^ 53
  le_exponent : -1074 ≤ b.exponent
  exponent_le : b.exponent ≤ 971
  normal : 2 ^ 52 ≤ b.significand ∨ b.exponent = -1074

/-- The exact value is in the interval of the double, whose ends count if the significand is even. -/
structure Covers (b : Binary) (x : ℚ) : Prop where
  low : (b.significand - b.reach / 4 : ℚ) * 2 ^ b.exponent ≤ x
  high : x ≤ (b.significand + 1 / 2 : ℚ) * 2 ^ b.exponent
  odd : b.significand % 2 = 1 →
    (b.significand - b.reach / 4 : ℚ) * 2 ^ b.exponent < x ∧ x < (b.significand + 1 / 2 : ℚ) * 2 ^ b.exponent

namespace Covers

variable {b : Binary} {x z : ℚ}

theorem reach_bounds (b : Binary) : (1 : ℚ) ≤ b.reach ∧ (b.reach : ℚ) ≤ 2 := by
  unfold reach
  split <;> norm_num

/-- The same, counted in steps of the last binary place. -/
theorem scaled (covers : b.Covers x) (value : x = z * 2 ^ b.exponent) :
    (b.significand - b.reach / 4 : ℚ) ≤ z ∧ z ≤ b.significand + 1 / 2 ∧
      (b.significand % 2 = 1 → (b.significand - b.reach / 4 : ℚ) < z ∧ z < b.significand + 1 / 2) := by
  have place : (0 : ℚ) < 2 ^ b.exponent := zpow_pos two_pos _
  obtain ⟨low, high, odd⟩ := covers
  rw [value] at low high odd
  refine ⟨le_of_mul_le_mul_right low place, le_of_mul_le_mul_right high place, fun h => ?_⟩
  exact ⟨lt_of_mul_lt_mul_right (odd h).1 place.le, lt_of_mul_lt_mul_right (odd h).2 place.le⟩

/-- A value that the double covers has the first digit of the double, or it lies below a power of two. -/
theorem target_cases (covers : b.Covers x) (normalized : b.Normalized) {k : Int} (low : 2 ^ k ≤ x)
    (high : x < 2 ^ (k + 1)) :
    max (k - 52) (-1074) = b.exponent ∨
      max (k - 52) (-1074) = b.exponent - 1 ∧ b.significand = 2 ^ 52 ∧ b.reach = 1 ∧ x < 2 ^ (b.exponent + 52) := by
  have two : (1 : ℚ) < 2 := by norm_num
  have place : (0 : ℚ) < 2 ^ b.exponent := zpow_pos two_pos _
  have shift (n : Int) : (2 : ℚ) ^ (b.exponent + n) = 2 ^ n * 2 ^ b.exponent := by
    rw [add_comm, zpow_add₀ two_ne_zero]
  have largest : (b.significand : ℚ) + 1 / 2 < 2 ^ (53 : Int) := by
    have small : (b.significand : ℚ) + 1 ≤ 2 ^ 53 := by exact_mod_cast normalized.significand_lt
    rw [zpow_ofNat]
    linarith
  have upper : k < b.exponent + 53 := by
    rw [← zpow_lt_zpow_iff_right₀ two, shift]
    exact low.trans_lt (covers.high.trans_lt (mul_lt_mul_of_pos_right largest place))
  have least := normalized.le_exponent
  by_cases bottom : b.exponent = -1074
  · exact .inl (by omega)
  by_cases same : k = b.exponent + 52
  · exact .inl (by omega)
  right
  have wide : 2 ^ 52 ≤ b.significand := normalized.normal.resolve_right bottom
  have below : x < 2 ^ (b.exponent + 52) :=
    high.trans_le (zpow_le_zpow_right₀ two.le (by omega))
  have first : b.significand = 2 ^ 52 := by
    have near : (b.significand - b.reach / 4 : ℚ) < 2 ^ (52 : Int) := by
      rw [shift] at below
      exact lt_of_mul_lt_mul_right (covers.low.trans_lt below) place.le
    have reach := (reach_bounds b).2
    have next : (b.significand : ℚ) < 2 ^ 52 + 1 := by
      rw [zpow_ofNat] at near
      linarith
    norm_cast at next
    omega
  have closer : b.reach = 1 := by
    simp [reach, closerBelow, first, bottom]
  have lower : b.exponent + 51 < k + 1 := by
    rw [← zpow_lt_zpow_iff_right₀ two, shift]
    refine (covers.low.trans_lt' ?_).trans high
    refine mul_lt_mul_of_pos_right ?_ place
    rw [first, closer]
    norm_num
  exact ⟨by omega, first, closer, below⟩

end Covers

end Binary

theorem mantissa_ofMantissaAndAccuracy (mantissa : Nat) (accuracy : Accuracy) :
    (ExtendedMantissa.ofMantissaAndAccuracy mantissa accuracy).mantissa = mantissa := by
  rcases accuracy with _ | (_ | _ | _) <;> rfl

/-- Bits are only shifted out until the exponent is the one that the first digit asks for. -/
theorem shiftToTargetExponent_eq {mantissa : Nat} {exponent target : Int} (accuracy : Accuracy)
    (htarget : max (mantissa.log2 + exponent - 52) (-1074) = target) (fine : exponent ≤ target) :
    shiftToTargetExponent .binary64 mantissa exponent accuracy =
      (ExtendedMantissa.ofMantissaAndAccuracy mantissa accuracy >>> (target - exponent).toNat, target) := by
  rw [shiftToTargetExponent, targetExponent_eq, htarget]
  simp only [shiftToExponent, Prod.mk.injEq, true_and]
  omega

/-- What is shifted out still shows. -/
theorem exists_shown {mantissa : Nat} {exponent target : Int} {accuracy : Accuracy} {y : ℚ}
    (shows : Shows (.ofMantissaAndAccuracy mantissa accuracy) y)
    (htarget : max (mantissa.log2 + exponent - 52) (-1074) = target) (fine : exponent ≤ target) :
    ∃ em z, shiftToTargetExponent .binary64 mantissa exponent accuracy = (em, target) ∧ Shows em z ∧
      y * 2 ^ exponent = z * 2 ^ target := by
  refine ⟨_, _, shiftToTargetExponent_eq accuracy htarget fine, shows.shiftRight (target - exponent).toNat, ?_⟩
  obtain ⟨n, rfl⟩ := Int.le.dest fine
  have places : (exponent + n - exponent).toNat = n := by omega
  rw [places, zpow_add₀ two_ne_zero, zpow_natCast]
  field_simp

/-- The first digit of a mantissa is the first digit of the value. -/
theorem Shows.log2_bounds {mantissa : Nat} {accuracy : Accuracy} {y : ℚ}
    (shows : Shows (.ofMantissaAndAccuracy mantissa accuracy) y) (some_bit : mantissa ≠ 0) (exponent : Int) :
    (2 : ℚ) ^ (mantissa.log2 + exponent) ≤ y * 2 ^ exponent ∧
      y * 2 ^ exponent < (2 : ℚ) ^ (mantissa.log2 + exponent + 1) := by
  have bounds := shows.bounds
  rw [mantissa_ofMantissaAndAccuracy] at bounds
  have place : (0 : ℚ) < 2 ^ exponent := zpow_pos two_pos _
  constructor
  · have first : ((2 ^ mantissa.log2 : Nat) : ℚ) ≤ mantissa := Nat.cast_le.2 (Nat.log2_self_le some_bit)
    rw [zpow_add₀ two_ne_zero, zpow_natCast]
    push_cast at first
    exact mul_le_mul_of_nonneg_right (first.trans bounds.1) place.le
  · have last : ((mantissa + 1 : Nat) : ℚ) ≤ (2 ^ (mantissa.log2 + 1) : Nat) := Nat.cast_le.2 Nat.lt_log2_self
    have power : (2 : ℚ) ^ (mantissa.log2 + exponent + 1) = 2 ^ (mantissa.log2 + 1) * 2 ^ exponent := by
      rw [add_right_comm, zpow_add₀ two_ne_zero, ← Nat.cast_add_one, zpow_natCast]
    push_cast at last
    rw [power]
    exact mul_lt_mul_of_pos_right (bounds.2.trans_le last) place

theorem log2_lt_of_lt {m n : Nat} (h : m < 2 ^ n) (hn : 0 < n) : m.log2 < n := by
  rcases Nat.eq_zero_or_pos m with rfl | pos
  · exact hn
  · exact (Nat.log2_lt (Nat.ne_of_gt pos)).2 h

namespace Binary

variable {b : Binary}

/-- A double is what its own bits are rounded to. -/
theorem Normalized.target_eq (normalized : b.Normalized) :
    max (b.significand.log2 + b.exponent - 52) (-1074) = b.exponent := by
  have upper := log2_lt_of_lt normalized.significand_lt (by decide)
  have least := normalized.le_exponent
  rcases normalized.normal with wide | bottom
  · have lower := (Nat.le_log2 (Nat.ne_of_gt normalized.pos)).2 wide
    omega
  · omega

/-- A value is rounded to the double that covers it, if both have the first digit in the same place. -/
theorem Covers.roundedMantissa_eq {x z : ℚ} {em : ExtendedMantissa} (covers : b.Covers x)
    (moved : x = z * 2 ^ b.exponent) (shown : Shows em z) : em.roundedMantissa = b.significand := by
  obtain ⟨low, high, odd⟩ := covers.scaled moved
  have reach := Covers.reach_bounds b
  refine shown.roundedMantissa_eq (by linarith) high fun h => ⟨?_, (odd h).2⟩
  have above := (odd h).1
  linarith

/-- Below a power of two the steps are half as wide, and all of them are taken up to it. -/
theorem Covers.roundedMantissa_below {x z : ℚ} {em : ExtendedMantissa} (covers : b.Covers x)
    (moved : x = z * 2 ^ (b.exponent - 1)) (power : b.significand = 2 ^ 52) (closer : b.reach = 1)
    (below : x < 2 ^ (b.exponent + 52)) (shown : Shows em z) : em.roundedMantissa = 2 ^ 53 := by
  have doubled : x = z / 2 * 2 ^ b.exponent := by
    rw [moved, zpow_sub_one₀ two_ne_zero]
    ring
  have low := (covers.scaled doubled).1
  have high : z < 2 ^ 53 := by
    have split : (2 : ℚ) ^ (b.exponent + 52) = 2 ^ 53 * 2 ^ (b.exponent - 1) := by
      rw [← zpow_ofNat, ← zpow_add₀ two_ne_zero]
      congr 1
      omega
    rw [moved, split] at below
    exact lt_of_mul_lt_mul_right below (zpow_pos two_pos _).le
  rw [power, closer] at low
  push_cast at low
  refine shown.roundedMantissa_eq ?_ ?_ fun odd => absurd odd (by decide)
  · push_cast
    linarith
  · push_cast
    linarith

/-- A value is rounded to the double that covers it. -/
theorem roundWithAccuracy_eq (normalized : b.Normalized) {mantissa : Nat} {exponent : Int} {accuracy : Accuracy}
    {y : ℚ} (shows : Shows (.ofMantissaAndAccuracy mantissa accuracy) y) (some_bit : mantissa ≠ 0)
    (fine : exponent ≤ max (mantissa.log2 + exponent - 52) (-1074)) (covers : b.Covers (y * 2 ^ exponent))
    (sign : Sign) :
    roundWithAccuracy .binary64 sign mantissa exponent accuracy =
      .finite sign b.significand b.exponent normalized.pos := by
  obtain ⟨low, high⟩ := shows.log2_bounds some_bit exponent
  rcases covers.target_cases normalized low high with same | ⟨next, power, closer, below⟩
  · obtain ⟨em, z, first, shown, moved⟩ := exists_shown shows same (same ▸ fine)
    have second := shiftToTargetExponent_eq .exact normalized.target_eq (Int.le_refl b.exponent)
    rw [Int.sub_self] at second
    simp only [roundWithAccuracy, first, covers.roundedMantissa_eq moved shown, second]
    exact dif_neg (Nat.ne_of_gt normalized.pos)
  -- rounding carries into the next power of two, which is shifted once more
  · obtain ⟨em, z, first, shown, moved⟩ := exists_shown shows next (next ▸ fine)
    have target : max (((2 ^ 53 : Nat).log2 : Int) + (b.exponent - 1) - 52) (-1074) = b.exponent := by
      rw [Nat.log2_two_pow]
      omega
    have second := shiftToTargetExponent_eq .exact target (Int.sub_le_self _ (by decide))
    have halved : (ExtendedMantissa.ofMantissaAndAccuracy (2 ^ 53) .exact >>> 1).mantissa = b.significand := power.symm
    rw [Int.sub_sub_self] at second
    simp only [roundWithAccuracy, first, covers.roundedMantissa_below moved power closer below shown, second]
    simp only [Int.toNat_one, halved]
    exact dif_neg (Nat.ne_of_gt normalized.pos)

/-! ## The interval of a double on a grid -/

section

variable {tie : Tie} {k : Int} {point : Nat}

/-- Quarters of the last binary place, counted in steps of the grid. -/
theorem quarters_eq (b : Binary) (k : Int) (n : Nat) :
    ((n * (b.quarter k).1 : Nat) : ℚ) = (n / 4 : ℚ) * 2 ^ b.exponent / 10 ^ k * (b.quarter k).2 := by
  have one : ((4 * 1 * (b.quarter k).1 : Nat) : ℚ) = ((1 : Nat) : ℚ) * 2 ^ b.exponent / 10 ^ k * (b.quarter k).2 :=
    value_eq ⟨1, b.exponent⟩ k
  have quarter : ((b.quarter k).1 : ℚ) = 2 ^ b.exponent / 10 ^ k * (b.quarter k).2 / 4 := by
    rw [Nat.cast_one, one_mul] at one
    push_cast at one
    linarith
  rw [Nat.cast_mul, quarter]
  ring

theorem quarters_le_iff (b : Binary) (k : Int) (n point : Nat) :
    n * (b.quarter k).1 ≤ point * (b.quarter k).2 ↔ (n / 4 : ℚ) * 2 ^ b.exponent ≤ point * 10 ^ k := by
  have den : (0 : ℚ) < (b.quarter k).2 := Nat.cast_pos.2 (quarter_pos b k).2
  have ten : (0 : ℚ) < 10 ^ k := zpow_pos (by norm_num) k
  rw [← Nat.cast_le (α := ℚ), quarters_eq, Nat.cast_mul, mul_le_mul_iff_left₀ den, div_le_iff₀ ten]

theorem le_quarters_iff (b : Binary) (k : Int) (n point : Nat) :
    point * (b.quarter k).2 ≤ n * (b.quarter k).1 ↔ (point : ℚ) * 10 ^ k ≤ n / 4 * 2 ^ b.exponent := by
  have den : (0 : ℚ) < (b.quarter k).2 := Nat.cast_pos.2 (quarter_pos b k).2
  have ten : (0 : ℚ) < 10 ^ k := zpow_pos (by norm_num) k
  rw [← Nat.cast_le (α := ℚ), quarters_eq, Nat.cast_mul, mul_le_mul_iff_left₀ den, le_div_iff₀ ten]

/-- The ends of the interval of an odd significand are not taken. -/
theorem inside_of_onGrid? (h : b.onGrid? tie k = some point) (odd : b.significand % 2 = 1) :
    (4 * b.significand - b.reach) * (b.quarter k).1 < point * (b.quarter k).2 ∧
      point * (b.quarter k).2 < (4 * b.significand + 2) * (b.quarter k).1 := by
  have lower := below_mul_le b k
  have upper := lt_below_succ_mul b k
  have wider : 4 * b.significand * (b.quarter k).1 < (4 * b.significand + 2) * (b.quarter k).1 :=
    Nat.mul_lt_mul_of_pos_right (Nat.lt_add_of_pos_right (by decide)) (quarter_pos b k).1
  have not_closed : b.closed ≠ true := by
    simp [closed, odd]
  rcases fits_of_onGrid? h with ⟨rfl, fits⟩ | ⟨rfl, fits⟩
  · rw [FitsBelow, if_neg not_closed] at fits
    exact ⟨fits, lower.trans_lt wider⟩
  · rw [FitsAbove, if_neg not_closed] at fits
    exact ⟨(Nat.mul_le_mul_right _ (Nat.sub_le _ _)).trans_lt upper, fits⟩

theorem Normalized.covers_of_onGrid? (normalized : b.Normalized) (h : b.onGrid? tie k = some point) :
    b.Covers (point * 10 ^ k) := by
  have narrow : b.reach ≤ 4 * b.significand := by
    have pos := normalized.pos
    unfold reach
    split <;> omega
  have low : ((4 * b.significand - b.reach : Nat) / 4 : ℚ) = b.significand - b.reach / 4 := by
    rw [Nat.cast_sub narrow]
    push_cast
    ring
  have high : ((4 * b.significand + 2 : Nat) / 4 : ℚ) = b.significand + 1 / 2 := by
    push_cast
    ring
  have near := near_of_onGrid? h
  refine ⟨?_, ?_, fun odd => ⟨?_, ?_⟩⟩
  · rw [← low]
    exact (quarters_le_iff b k _ _).1 near.low
  · rw [← high]
    exact (le_quarters_iff b k _ _).1 near.high
  · rw [← low]
    exact lt_of_not_ge fun le => (inside_of_onGrid? h odd).1.not_ge ((le_quarters_iff b k _ _).2 le)
  · rw [← high]
    exact lt_of_not_ge fun le => (inside_of_onGrid? h odd).2.not_ge ((quarters_le_iff b k _ _).2 le)

end

end Binary

end CarbonSurvey.Decimal
