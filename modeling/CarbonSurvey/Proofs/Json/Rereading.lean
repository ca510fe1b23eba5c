import CarbonSurvey.Proofs.Decimal.Scaling
import CarbonSurvey.Proofs.Json.Numeral

/-! # Numbers that are read as they were written

A significand below `2 ^ 53` and a power of ten up to `10 ^ 22` are both doubles, so scaling rounds only once
(`scale?_eq`). It then gives back the number whose shortest digits were written (`Number.reread?_eq_self`).
-/

namespace CarbonSurvey.Json

open Decimal Binary

theorem five_pow_lt {k : Nat} (small : k ≤ 22) : 5 ^ k < 2 ^ 53 :=
  (Nat.pow_le_pow_right (by decide) small).trans_lt (by decide : 5 ^ 22 < 2 ^ 53)

/-- `10 ^ k` as a double, `5 ^ k · 2 ^ k`. -/
theorem wide_power {k : Nat} (small : k ≤ 22) : (widened (5 ^ k) k).Wide :=
  widened_wide (Nat.pow_pos (by decide)) (five_pow_lt small) (by omega) (by omega)

theorem toRat_power {k : Nat} (small : k ≤ 22) : (widened (5 ^ k) k).toRat = 10 ^ k := by
  rw [toRat_widened k (five_pow_lt small), zpow_natCast]
  push_cast
  rw [← mul_pow]
  norm_num

theorem powerOfTen_eq {k : Nat} (small : k ≤ 22) :
    powerOfTen k = toFloat .positive (wide_power small).normalized := by
  have each : ∀ k, k < 23 → ofFloat (powerOfTen k) = widened (5 ^ k) k ∧
      Layout.isNegative (powerOfTen k) = false := by
    decide +kernel
  obtain ⟨value, sign⟩ := each k (Nat.lt_succ_of_le small)
  refine eq_of_ofFloat ?_ ?_
  · rw [value, ofFloat_toFloat]
  · rw [sign, isNegative_toFloat]
    rfl

section

variable {n : Nat} {power : Int} {b : Binary}

theorem wide_natCast (pos : 0 < n) (small : n < 2 ^ 53) : (widened n 0).Wide :=
  widened_wide pos small (by decide) (by decide)

theorem ofNat_eq (pos : 0 < n) (small : n < 2 ^ 53) :
    Float.ofNat n = toFloat .positive (wide_natCast pos small).normalized := by
  have unit : powerOfTen 0 = toFloat .positive (wide_power (Nat.zero_le 22)).normalized :=
    powerOfTen_eq (Nat.zero_le 22)
  have one : Float.exactlyRepresentablePowersOfTen[0] = powerOfTen 0 := by decide +kernel
  have scaled : Float.ofNat n = n.toUInt64.toFloat * Float.exactlyRepresentablePowersOfTen[0] :=
    dif_pos ⟨small, Nat.zero_le 22⟩
  rw [scaled, one, unit, toFloat_natCast pos small]
  refine (wide_natCast pos small).mul_toFloat (wide_power (Nat.zero_le 22)) _ ?_
  rw [toRat_power (Nat.zero_le 22), pow_zero, mul_one]
  exact covers_toRat _

/-- Few digits, scaled by a power of ten that is a double, are rounded once. -/
theorem scale?_eq (pos : 0 < n) (small : n < 2 ^ 53) (near : power.natAbs ≤ 22) (normalized : b.Normalized)
    (covers : b.Covers (n * 10 ^ power)) : scale? (Float.ofNat n) power = some (toFloat .positive normalized) := by
  have wide := wide_natCast pos small
  have value : (widened n 0).toRat = n := by
    rw [toRat_widened 0 small, zpow_zero, mul_one]
  unfold scale?
  split
  · next negative =>
    have covered : b.Covers ((widened n 0).toRat / (widened (5 ^ power.natAbs) power.natAbs).toRat) := by
      have inverse : power = -(power.natAbs : Int) := by omega
      rw [value, toRat_power near, div_eq_mul_inv, ← zpow_natCast, ← zpow_neg, ← inverse]
      exact covers
    rw [divideByPower, if_pos (near.trans (by decide)), ofNat_eq pos small, powerOfTen_eq near]
    refine congrArg some (wide.div_toFloat (wide_power near) normalized ?_ covered)
    have places := log2_lt_of_lt (five_pow_lt near) (by decide)
    simp only [widened]
    omega
  · next nonneg =>
    have covered : b.Covers ((widened n 0).toRat * (widened (5 ^ power.natAbs) power.natAbs).toRat) := by
      have same : power = (power.natAbs : Int) := by omega
      rw [value, toRat_power near, ← zpow_natCast, ← same]
      exact covers
    have finite : (toFloat .positive normalized).isInf = false := by
      change (toFloat .positive normalized).toModel.unpack.isInf = false
      rw [unpack_toFloat]
      rfl
    rw [if_pos (by omega), ofNat_eq pos small, powerOfTen_eq near, wide.mul_toFloat (wide_power near) normalized covered]
    simp only [finite, Bool.false_eq_true, if_false]

end

theorem neg_toFloat {b : Binary} (normalized : b.Normalized) :
    -toFloat .positive normalized = toFloat .negative normalized := by
  change Float.ofModel (.pack (toFloat .positive normalized).toModel.unpack.neg) = _
  rw [unpack_toFloat]
  rfl

/-- Zero is read with its sign. -/
theorem signed_zero {value : Float} (zero : (ofFloat value).significand = 0) :
    signed (Layout.isNegative value) (Float.ofNat 0) = value := by
  have bottom : ofFloat value = ⟨0, -1074⟩ := by
    unfold ofFloat at zero ⊢
    dsimp only at zero ⊢
    split at zero
    · next lowest =>
      rw [if_pos lowest]
      exact congrArg (Binary.mk · _) zero
    · exact absurd zero (by simp [Nat.pow_eq])
  have both : ∀ negative, ofFloat (signed negative (Float.ofNat 0)) = ⟨0, -1074⟩ ∧
      Layout.isNegative (signed negative (Float.ofNat 0)) = negative := by
    decide +kernel
  obtain ⟨same, sign⟩ := both (Layout.isNegative value)
  exact eq_of_ofFloat (same.trans bottom.symm) sign

theorem signed_toFloat {value : Float} (normalized : (ofFloat value).Normalized) :
    signed (Layout.isNegative value) (toFloat .positive normalized) = value := by
  cases sign : Layout.isNegative value with
  | false =>
      refine eq_of_ofFloat (ofFloat_toFloat .positive normalized) ?_
      rw [sign]
      exact isNegative_toFloat .positive normalized
  | true =>
      refine (neg_toFloat normalized).trans (eq_of_ofFloat (ofFloat_toFloat .negative normalized) ?_)
      rw [sign]
      exact isNegative_toFloat .negative normalized

/-- A number is read as it was written if its digits are few. -/
theorem Number.reread?_eq_self {value : Float} (finite : value.isFinite)
    (short : (Decimal.shortest .even value).Short) : Number.reread? value = some value := by
  unfold Number.reread?
  by_cases zero : (ofFloat value).significand = 0
  · have none : Decimal.shortest .even value = ⟨0, 0⟩ := shortest_zero zero .even
    have scaled : scale? (Float.ofNat (0 * 10 ^ (Digits.padding ⟨0, 0⟩))) (0 - Digits.padding ⟨0, 0⟩) =
        some (Float.ofNat 0) := by
      decide +kernel
    simp only [none, scaled, Option.map_some, signed_zero zero]
  · have normalized := normalized_ofFloat finite zero
    obtain ⟨on, -⟩ := shortest_onGrid (ofFloat_stored value) zero .even
    have covers := normalized.covers_of_onGrid? on
    have pos := shortest_pos (ofFloat_stored value) zero .even
    obtain ⟨small, near⟩ := short
    unfold Decimal.shortest at small near ⊢
    generalize (ofFloat value).shortest .even = d at covers pos small near ⊢
    have moved : ((d.significand * 10 ^ d.padding : Nat) : ℚ) * 10 ^ (d.exponent - d.padding) =
        d.significand * 10 ^ d.exponent := by
      rw [zpow_sub₀ (by norm_num), zpow_natCast]
      push_cast
      field_simp
    have scaled := scale?_eq (Nat.mul_pos pos (Nat.pow_pos (by decide))) small near normalized (moved ▸ covers)
    dsimp only
    rw [scaled, Option.map_some, signed_toFloat]

end CarbonSurvey.Json
