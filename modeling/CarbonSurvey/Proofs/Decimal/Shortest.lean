import CarbonSurvey.Decimal.Shortest
import Mathlib.Algebra.Order.Field.Rat
import Mathlib.Tactic.FieldSimp
import Mathlib.Tactic.Linarith
import Mathlib.Tactic.NormNum
import Mathlib.Tactic.Positivity
import Mathlib.Tactic.Ring

/-! # The search for the shortest decimal

The search ends on a grid that has a point for the value (`shortest_onGrid`): the first digit is where
`leadingPower` puts it (`leadingPower_le`, `lt_leadingPower`), and on a grid sixteen steps below it one of the two
points beside the value is always near enough (`onGrid?_of_fine`). The point is at least one and has seventeen
digits at most, or is the power of ten after those (`onGrid?_pos`, `onGrid?_le`).
-/

namespace CarbonSurvey.Decimal.Binary

variable {b : Binary} {tie : Tie} {k : Int} {point : Nat}

/-- The number itself. -/
def toRat (b : Binary) : ℚ :=
  b.significand * 2 ^ b.exponent

/-- What a double can store. -/
structure Stored (b : Binary) : Prop where
  significand_lt : b.significand < 2 ^ 53
  le_exponent : -1074 ≤ b.exponent
  exponent_le : b.exponent ≤ 972

theorem ofFloat_stored (x : Float) : (ofFloat x).Stored := by
  unfold ofFloat
  dsimp only
  have fraction := Nat.mod_lt x.toBits.toNat (show 0 < Nat.pow 2 52 by decide)
  have power := Nat.mod_lt (x.toBits.toNat / Nat.pow 2 52) (show 0 < Nat.pow 2 11 by decide)
  have wide : Nat.pow 2 11 = 2048 := rfl
  have tall : Nat.pow 2 52 = 4503599627370496 := rfl
  split
  · exact ⟨by dsimp only; omega, Int.le_refl _, by dsimp only; omega⟩
  · exact ⟨by dsimp only; omega, by dsimp only; omega, by dsimp only; omega⟩

/-! ## Grids -/

theorem quarter_pos (b : Binary) (k : Int) : 0 < (b.quarter k).1 ∧ 0 < (b.quarter k).2 :=
  ⟨Nat.mul_pos (Nat.pow_pos Nat.two_pos) (Nat.pow_pos (by decide)),
    Nat.mul_pos (Nat.pow_pos Nat.two_pos) (Nat.pow_pos (by decide))⟩

theorem zpow_eq_div (base : ℚ) (n : Int) : base ^ n = base ^ n.toNat / base ^ (-n).toNat := by
  rcases Int.le_total 0 n with nonneg | neg
  · obtain ⟨m, rfl⟩ := Int.eq_ofNat_of_zero_le nonneg
    simp
  · obtain ⟨m, hm⟩ := Int.eq_ofNat_of_zero_le (Int.neg_nonneg.2 neg)
    obtain rfl : n = -m := by omega
    simp

/-- The value in quarters of the last binary place, and the grid in the same. -/
theorem value_eq (b : Binary) (k : Int) :
    ((4 * b.significand * (b.quarter k).1 : Nat) : ℚ) = b.toRat / 10 ^ k * (b.quarter k).2 := by
  have two := zpow_eq_div 2 (b.exponent - 2)
  have ten := zpow_eq_div 10 k
  have back : -(b.exponent - 2) = 2 - b.exponent := by ring
  have split : (2 : ℚ) ^ b.exponent = 4 * 2 ^ (b.exponent - 2) := by
    rw [zpow_sub₀ two_ne_zero]
    norm_num
    ring
  rw [back] at two
  rw [toRat, split, two, ten]
  have : (2 : ℚ) ^ (2 - b.exponent).toNat ≠ 0 := pow_ne_zero _ two_ne_zero
  have : (10 : ℚ) ^ k.toNat ≠ 0 := pow_ne_zero _ (by norm_num)
  have : (10 : ℚ) ^ (-k).toNat ≠ 0 := pow_ne_zero _ (by norm_num)
  simp only [quarter, Nat.pow_eq]
  push_cast
  field_simp

theorem mul_le_value_iff (b : Binary) (k : Int) (n : Nat) :
    n * (b.quarter k).2 ≤ 4 * b.significand * (b.quarter k).1 ↔ (n : ℚ) * 10 ^ k ≤ b.toRat := by
  have den : (0 : ℚ) < (b.quarter k).2 := Nat.cast_pos.2 (quarter_pos b k).2
  have ten : (0 : ℚ) < 10 ^ k := zpow_pos (by norm_num) k
  rw [← Nat.cast_le (α := ℚ), value_eq, Nat.cast_mul, mul_le_mul_iff_left₀ den, le_div_iff₀ ten]

theorem value_lt_mul_iff (b : Binary) (k : Int) (n : Nat) :
    4 * b.significand * (b.quarter k).1 < n * (b.quarter k).2 ↔ b.toRat < (n : ℚ) * 10 ^ k := by
  rw [← not_le, mul_le_value_iff, not_le]

/-- The last point of the grid up to the value. -/
def below (b : Binary) (k : Int) : Nat :=
  4 * b.significand * (b.quarter k).1 / (b.quarter k).2

theorem below_mul_le (b : Binary) (k : Int) :
    b.below k * (b.quarter k).2 ≤ 4 * b.significand * (b.quarter k).1 :=
  Nat.div_mul_le_self _ _

theorem lt_below_succ_mul (b : Binary) (k : Int) :
    4 * b.significand * (b.quarter k).1 < (b.below k + 1) * (b.quarter k).2 :=
  Nat.lt_mul_of_div_lt (Nat.lt_succ_self _) (quarter_pos b k).2

/-- How far below the value the interval reaches, in quarters of the last binary place. -/
def reach (b : Binary) : Nat :=
  if b.closerBelow then 1 else 2

/-- The point below the value rounds back to it. -/
def FitsBelow (b : Binary) (k : Int) : Prop :=
  if b.closed then (4 * b.significand - b.reach) * (b.quarter k).1 ≤ b.below k * (b.quarter k).2
  else (4 * b.significand - b.reach) * (b.quarter k).1 < b.below k * (b.quarter k).2

/-- The point above the value rounds back to it. -/
def FitsAbove (b : Binary) (k : Int) : Prop :=
  if b.closed then (b.below k + 1) * (b.quarter k).2 ≤ (4 * b.significand + 2) * (b.quarter k).1
  else (b.below k + 1) * (b.quarter k).2 < (4 * b.significand + 2) * (b.quarter k).1

instance : Decidable (b.FitsBelow k) :=
  inferInstanceAs (Decidable (ite _ _ _))

instance : Decidable (b.FitsAbove k) :=
  inferInstanceAs (Decidable (ite _ _ _))

theorem onGrid?_eq (b : Binary) (tie : Tie) (k : Int) : b.onGrid? tie k =
    if b.FitsBelow k ∧ b.FitsAbove k then
      if 2 * (4 * b.significand * (b.quarter k).1) < (2 * b.below k + 1) * (b.quarter k).2 then some (b.below k)
      else if (2 * b.below k + 1) * (b.quarter k).2 < 2 * (4 * b.significand * (b.quarter k).1) then
        some (b.below k + 1)
      else if tie = .even ∧ b.below k % 2 = 0 then some (b.below k)
      else some (b.below k + 1)
    else if b.FitsBelow k then some (b.below k)
    else if b.FitsAbove k then some (b.below k + 1)
    else none :=
  rfl

theorem fits_of_onGrid? (h : b.onGrid? tie k = some point) :
    point = b.below k ∧ b.FitsBelow k ∨ point = b.below k + 1 ∧ b.FitsAbove k := by
  rw [onGrid?_eq] at h
  grind

theorem not_fits_of_onGrid? (h : b.onGrid? tie k = none) : ¬ b.FitsBelow k ∧ ¬ b.FitsAbove k := by
  rw [onGrid?_eq] at h
  grind

/-- A point of the grid in the interval of the value, ends included. -/
structure Near (b : Binary) (k : Int) (point : Nat) : Prop where
  low : (4 * b.significand - b.reach) * (b.quarter k).1 ≤ point * (b.quarter k).2
  high : point * (b.quarter k).2 ≤ (4 * b.significand + 2) * (b.quarter k).1

theorem near_of_onGrid? (h : b.onGrid? tie k = some point) : b.Near k point := by
  have lower := below_mul_le b k
  have upper := lt_below_succ_mul b k
  rcases fits_of_onGrid? h with ⟨rfl, fits⟩ | ⟨rfl, fits⟩
  · refine ⟨?_, lower.trans (Nat.mul_le_mul_right _ (Nat.le_add_right _ 2))⟩
    unfold FitsBelow at fits
    split at fits
    · exact fits
    · exact fits.le
  · refine ⟨(Nat.mul_le_mul_right _ (Nat.sub_le _ _)).trans upper.le, ?_⟩
    unfold FitsAbove at fits
    split at fits
    · exact fits
    · exact fits.le

theorem onGrid?_pos (hb : b.significand ≠ 0) (h : b.onGrid? tie k = some point) : 0 < point := by
  have near := (near_of_onGrid? h).low
  have wide : 0 < 4 * b.significand - b.reach := by
    unfold reach
    split <;> omega
  exact Nat.pos_of_mul_pos_right (Nat.lt_of_lt_of_le (Nat.mul_pos wide (quarter_pos b k).1) near)

theorem onGrid?_le {bound : Nat} (hb : b.toRat < bound * 10 ^ k) (h : b.onGrid? tie k = some point) :
    point ≤ bound := by
  have room : b.below k < bound :=
    (Nat.div_lt_iff_lt_mul (quarter_pos b k).2).2 ((value_lt_mul_iff b k bound).2 hb)
  rcases fits_of_onGrid? h with ⟨rfl, _⟩ | ⟨rfl, _⟩ <;> omega

/-- Sixteen places below the first digit one of the two points is near enough. -/
theorem onGrid?_of_fine (stored : b.Stored) (fine : 10 ^ 16 * 10 ^ k ≤ b.toRat) : b.onGrid? tie k ≠ none := by
  intro h
  obtain ⟨down, up⟩ := not_fits_of_onGrid? h
  have low : b.below k * (b.quarter k).2 ≤ (4 * b.significand - b.reach) * (b.quarter k).1 := by
    unfold FitsBelow at down
    split at down <;> omega
  have high : (4 * b.significand + 2) * (b.quarter k).1 ≤ (b.below k + 1) * (b.quarter k).2 := by
    unfold FitsAbove at up
    split at up <;> omega
  have fine : 10 ^ 16 * (b.quarter k).2 ≤ 4 * b.significand * (b.quarter k).1 :=
    (mul_le_value_iff b k (10 ^ 16)).2 (by exact_mod_cast fine)
  have reach_le : b.reach ≤ 4 * b.significand := by
    have some_den := (quarter_pos b k).2
    unfold reach
    rcases Nat.eq_zero_or_pos b.significand with zero | pos
    · rw [zero] at fine
      omega
    · split <;> omega
  -- the grid is at least as wide as the interval
  have wide : (2 + b.reach) * (b.quarter k).1 ≤ (b.quarter k).2 := by
    have parts := Nat.sub_mul (4 * b.significand) b.reach (b.quarter k).1
    have inner := Nat.mul_le_mul_right (b.quarter k).1 reach_le
    simp only [Nat.add_mul, Nat.one_mul] at low high ⊢
    omega
  have narrow : 10 ^ 16 * (2 + b.reach) ≤ 4 * b.significand := by
    refine Nat.le_of_mul_le_mul_right ?_ (quarter_pos b k).1
    rw [Nat.mul_assoc]
    exact (Nat.mul_le_mul_left _ wide).trans fine
  have small := stored.significand_lt
  unfold reach at narrow
  split at narrow
  · next closer =>
    simp only [closerBelow, Bool.and_eq_true, beq_iff_eq, Nat.pow_eq] at closer
    omega
  · omega

/-! ## The first digit -/

theorem two_pow_le_ten_pow : (2 : ℚ) ^ 1080 ≤ 10 ^ 340 := calc
  (2 : ℚ) ^ 1080 = (2 ^ 54) ^ 20 := pow_mul 2 54 20
  _ ≤ (10 ^ 17) ^ 20 := pow_le_pow_left₀ (by norm_num) (by norm_num) 20
  _ = 10 ^ 340 := (pow_mul 10 17 20).symm

/-- Even the smallest double shows a digit once it is scaled up. -/
theorem below_pos (stored : b.Stored) (hb : b.significand ≠ 0) : 0 < b.below (-340) := by
  have smallest : (10 : ℚ) ^ (-340 : Int) ≤ 2 ^ (-1080 : Int) := by
    rw [zpow_neg, zpow_neg, zpow_ofNat, zpow_ofNat]
    exact inv_anti₀ (pow_pos two_pos _) two_pow_le_ten_pow
  have power : (2 : ℚ) ^ (-1080 : Int) ≤ 2 ^ b.exponent :=
    zpow_le_zpow_right₀ (by norm_num) (Int.le_trans (by decide) stored.le_exponent)
  have whole : (1 : ℚ) ≤ b.significand := Nat.one_le_cast.2 (Nat.pos_of_ne_zero hb)
  have value : ((1 : Nat) : ℚ) * 10 ^ (-340 : Int) ≤ b.toRat := by
    rw [Nat.cast_one, one_mul]
    exact (smallest.trans power).trans (le_mul_of_one_le_left (zpow_nonneg (by norm_num) _) whole)
  have scaled := (mul_le_value_iff b (-340) 1).2 value
  exact (Nat.le_div_iff_mul_le (quarter_pos b (-340)).2).2 scaled

theorem leadingPower_eq (b : Binary) : b.leadingPower = (Nat.toDigits 10 (b.below (-340))).length - 341 :=
  rfl

theorem leadingPower_le (stored : b.Stored) (hb : b.significand ≠ 0) : 10 ^ b.leadingPower ≤ b.toRat := by
  obtain ⟨places, length⟩ := Nat.exists_eq_add_of_lt
    (List.length_pos_iff.2 (Nat.toDigits_ne_nil (b := 10) (n := b.below (-340))))
  have first : 10 ^ places ≤ b.below (-340) := by
    rcases Nat.eq_zero_or_pos places with rfl | pos
    · exact below_pos stored hb
    · have shorter := (Nat.length_toDigits_le_iff (n := b.below (-340)) (by decide : 1 < 10) pos).not
      rw [Nat.not_lt] at shorter
      exact shorter.1 (by omega)
  have value := (mul_le_value_iff b (-340) (10 ^ places)).1
    ((Nat.mul_le_mul_right _ first).trans (below_mul_le b (-340)))
  have power : b.leadingPower = places + -340 := by
    rw [leadingPower_eq, length]
    omega
  rw [power, zpow_add₀ (by norm_num), zpow_natCast]
  exact_mod_cast value

theorem lt_leadingPower (b : Binary) : b.toRat < 10 ^ (b.leadingPower + 1) := by
  have last : b.below (-340) < 10 ^ (Nat.toDigits 10 (b.below (-340))).length :=
    (Nat.length_toDigits_le_iff (by decide) (List.length_pos_iff.2 Nat.toDigits_ne_nil)).1 (Nat.le_refl _)
  have value := (value_lt_mul_iff b (-340) _).1
    ((lt_below_succ_mul b (-340)).trans_le (Nat.mul_le_mul_right _ last))
  have power : b.leadingPower + 1 = (Nat.toDigits 10 (b.below (-340))).length + -340 := by
    rw [leadingPower_eq]
    omega
  rw [power, zpow_add₀ (by norm_num), zpow_natCast]
  exact_mod_cast value

theorem toRat_lt (stored : b.Stored) : b.toRat < 10 ^ 340 := by
  have significand : (b.significand : ℚ) < 2 ^ 53 := by exact_mod_cast stored.significand_lt
  have power : (2 : ℚ) ^ b.exponent ≤ 2 ^ (1027 : Int) :=
    zpow_le_zpow_right₀ (by norm_num) (Int.le_trans stored.exponent_le (by decide))
  rw [zpow_ofNat] at power
  calc b.toRat < 2 ^ 53 * 2 ^ 1027 :=
        mul_lt_mul significand power (zpow_pos two_pos _) (pow_nonneg zero_le_two _)
    _ = 2 ^ 1080 := (pow_add 2 53 1027).symm
    _ ≤ 10 ^ 340 := two_pow_le_ten_pow

theorem leadingPower_lt (stored : b.Stored) (hb : b.significand ≠ 0) : b.leadingPower < 340 := by
  have powers := (leadingPower_le stored hb).trans_lt (toRat_lt stored)
  rw [← zpow_natCast, zpow_lt_zpow_iff_right₀ (by norm_num)] at powers
  exact powers

theorem le_leadingPower (b : Binary) : -340 ≤ b.leadingPower := by
  have places := List.length_pos_iff.2 (Nat.toDigits_ne_nil (b := 10) (n := b.below (-340)))
  rw [leadingPower_eq]
  omega

/-! ## The search -/

/-- The search finds the first grid that has a point, if one of those it looks at is fine enough. -/
theorem search_onGrid (stored : b.Stored) (tie : Tie) {fine : Int} (hfine : 10 ^ 16 * 10 ^ fine ≤ b.toRat)
    (steps : Nat) {k : Int} (from_above : fine ≤ k) (enough : k < fine + steps) :
    b.onGrid? tie (b.search tie steps k).exponent = some (b.search tie steps k).significand ∧
      fine ≤ (b.search tie steps k).exponent ∧ (b.search tie steps k).exponent ≤ k := by
  induction steps generalizing k with
  | zero => omega
  | succ steps ih =>
      rw [search]
      cases found : b.onGrid? tie k with
      | some point => exact ⟨found, from_above, Int.le_refl k⟩
      | none =>
          have higher : fine ≠ k := by
            intro same
            exact onGrid?_of_fine stored (same ▸ hfine) found
          obtain ⟨on, lower, upper⟩ := ih (k := k - 1) (by omega) (by omega)
          exact ⟨on, lower, upper.trans (Int.sub_le_self k (by decide))⟩

/-- The shortest decimal is a point of the grid it is counted on, near the first digit. -/
theorem shortest_onGrid (stored : b.Stored) (hb : b.significand ≠ 0) (tie : Tie) :
    b.onGrid? tie (b.shortest tie).exponent = some (b.shortest tie).significand ∧
      b.leadingPower - 16 ≤ (b.shortest tie).exponent ∧ (b.shortest tie).exponent ≤ b.leadingPower + 1 := by
  have fine : 10 ^ 16 * 10 ^ (b.leadingPower - 16) ≤ b.toRat := by
    rw [← zpow_natCast, ← zpow_add₀ (by norm_num), Nat.cast_ofNat, add_sub_cancel]
    exact leadingPower_le stored hb
  rw [shortest, if_neg hb]
  exact search_onGrid stored tie fine 18 (by omega) (by omega)

theorem shortest_zero (hb : b.significand = 0) (tie : Tie) : b.shortest tie = ⟨0, 0⟩ :=
  if_pos hb

theorem shortest_pos (stored : b.Stored) (hb : b.significand ≠ 0) (tie : Tie) :
    0 < (b.shortest tie).significand :=
  onGrid?_pos hb (shortest_onGrid stored hb tie).1

theorem shortest_significand_le (stored : b.Stored) (tie : Tie) : (b.shortest tie).significand ≤ 10 ^ 17 := by
  by_cases hb : b.significand = 0
  · rw [shortest_zero hb]
    exact Nat.zero_le _
  · obtain ⟨on, lower, -⟩ := shortest_onGrid stored hb tie
    refine onGrid?_le ?_ on
    have power : (10 : ℚ) ^ (b.leadingPower + 1) = 10 ^ 17 * 10 ^ (b.leadingPower - 16) := by
      rw [← zpow_natCast, ← zpow_add₀ (by norm_num)]
      congr 1
      omega
    refine (lt_leadingPower b).trans_le ?_
    rw [power, Nat.cast_pow, Nat.cast_ofNat]
    exact mul_le_mul_of_nonneg_left (zpow_le_zpow_right₀ (by norm_num) lower) (by norm_num)

theorem shortest_exponent_le (stored : b.Stored) (tie : Tie) : (b.shortest tie).exponent.natAbs ≤ 356 := by
  by_cases hb : b.significand = 0
  · rw [shortest_zero hb]
    decide
  · obtain ⟨-, lower, upper⟩ := shortest_onGrid stored hb tie
    have least := le_leadingPower b
    have greatest := leadingPower_lt stored hb
    omega

end CarbonSurvey.Decimal.Binary
