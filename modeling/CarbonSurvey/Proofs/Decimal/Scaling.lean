import CarbonSurvey.Proofs.Decimal.Packing

/-! # Arithmetic on doubles

A product and a quotient of doubles is the double that covers the exact result (`Wide.mul_toFloat`,
`Wide.div_toFloat`), and whole numbers with fewer than 54 bits are doubles (`toFloat_natCast`).
-/

namespace CarbonSurvey.Decimal

open Float.Model Float.Model.UnpackedFloat

/-- A quotient of whole numbers, with what the remainder tells of the rest. -/
theorem shows_div (m : Nat) {d : Nat} (pos : 0 < d) :
    Shows (.ofMantissaAndAccuracy (m / d) (accuracyOfFraction (m % d) d)) (m / d) := by
  have below : (0 : ℚ) < d := Nat.cast_pos.2 pos
  have rest : (m % d : Nat) < (d : ℚ) := Nat.cast_lt.2 (Nat.mod_lt m pos)
  have whole : (m / d : ℚ) = (m / d : Nat) + (m % d : Nat) / d := by
    rw [div_eq_iff below.ne', add_mul, div_mul_cancel₀ _ below.ne']
    exact_mod_cast (Nat.div_add_mod' m d).symm
  unfold accuracyOfFraction
  split
  · next none =>
    refine .exact ?_
    rw [whole, none, Nat.cast_zero, zero_div, add_zero]
  · next some =>
    have some : (0 : ℚ) < (m % d : Nat) := Nat.cast_pos.2 (Nat.pos_of_ne_zero some)
    have fraction : (0 : ℚ) < (m % d : Nat) / d ∧ ((m % d : Nat) / d : ℚ) < 1 :=
      ⟨div_pos some below, (div_lt_one below).2 rest⟩
    rcases lt_trichotomy (2 * (m % d)) d with less | same | more
    · rw [Nat.compare_eq_lt.2 less]
      have less : (2 * (m % d : Nat) : ℚ) < d := by exact_mod_cast less
      have half : ((m % d : Nat) / d : ℚ) < 1 / 2 := by
        rw [div_lt_iff₀ below]
        linarith
      exact .lower (by linarith) (by linarith)
    · rw [Nat.compare_eq_eq.2 same]
      have same : (2 * (m % d : Nat) : ℚ) = d := by exact_mod_cast same
      have half : ((m % d : Nat) / d : ℚ) = 1 / 2 := by
        rw [div_eq_iff below.ne']
        linarith
      exact .half (by linarith)
    · rw [Nat.compare_eq_gt.2 more]
      have more : (d : ℚ) < 2 * (m % d : Nat) := by exact_mod_cast more
      have half : 1 / 2 < ((m % d : Nat) / d : ℚ) := by
        rw [lt_div_iff₀ below]
        linarith
      exact .upper (by linarith) (by linarith)

theorem shows_exact (m : Nat) : Shows (.ofMantissaAndAccuracy m .exact) m :=
  .exact rfl

namespace Binary

variable {a b c : Binary}

/-- A double is in its own interval. -/
theorem covers_toRat (b : Binary) : b.Covers b.toRat := by
  have place : (0 : ℚ) < 2 ^ b.exponent := zpow_pos two_pos _
  have reach := (Covers.reach_bounds b).1
  have low : (b.significand - b.reach / 4 : ℚ) * 2 ^ b.exponent < b.toRat :=
    mul_lt_mul_of_pos_right (by linarith) place
  have high : b.toRat < (b.significand + 1 / 2 : ℚ) * 2 ^ b.exponent :=
    mul_lt_mul_of_pos_right (by linarith) place
  exact ⟨low.le, high.le, fun _ => ⟨low, high⟩⟩

/-- A double whose significand has all its bits. -/
structure Wide (b : Binary) : Prop where
  normalized : b.Normalized
  wide : 2 ^ 52 ≤ b.significand

/-- The product of two doubles is the one that covers the exact product. -/
theorem Wide.mul_toFloat (ha : a.Wide) (hb : b.Wide) (hc : c.Normalized) (covers : c.Covers (a.toRat * b.toRat)) :
    toFloat .positive ha.normalized * toFloat .positive hb.normalized = toFloat .positive hc := by
  have product : 2 ^ 52 ≤ a.significand * b.significand :=
    ha.wide.trans (Nat.le_mul_of_pos_right _ hb.normalized.pos)
  have some_bit : a.significand * b.significand ≠ 0 := by omega
  have places := (Nat.le_log2 some_bit).2 product
  have value : ((a.significand * b.significand : Nat) : ℚ) * 2 ^ (a.exponent + b.exponent) = a.toRat * b.toRat := by
    rw [zpow_add₀ two_ne_zero, toRat, toRat]
    push_cast
    ring
  have rounded := roundWithAccuracy_eq hc (shows_exact _) some_bit
    (show a.exponent + b.exponent ≤ _ by omega) (value ▸ covers) .positive
  change Float.ofModel (.pack (UnpackedFloat.mul .binary64 (toFloat .positive ha.normalized).toModel.unpack
    (toFloat .positive hb.normalized).toModel.unpack)) = _
  rw [unpack_toFloat, unpack_toFloat]
  exact congrArg (fun result => Float.ofModel (.pack result)) rounded

/-- The quotient is computed to more bits than a double has. -/
theorem Wide.divCore_eq (ha : a.Wide) (hb : b.Wide) (near : -1021 ≤ a.exponent - b.exponent) :
    divCore .binary64 a.significand a.exponent b.significand b.exponent =
      (a.significand * 2 ^ 53 / b.significand, a.exponent - b.exponent - 53,
        accuracyOfFraction (a.significand * 2 ^ 53 % b.significand) b.significand) := by
  have log2_eq {c : Binary} (hc : c.Wide) : c.significand.log2 = 52 := by
    have upper := log2_lt_of_lt hc.normalized.significand_lt (by decide)
    have lower := (Nat.le_log2 (Nat.ne_of_gt hc.normalized.pos)).2 hc.wide
    omega
  have target : Format.binary64.targetExponent
      (totalExponent a.significand a.exponent - totalExponent b.significand b.exponent) =
        a.exponent - b.exponent - 53 := by
    simp only [Format.targetExponent, totalExponent, log2_eq ha, log2_eq hb, Format.mantissaBits, Format.minExponent]
    norm_num
    omega
  have shift : (a.exponent - b.exponent - (a.exponent - b.exponent - 53)).toNat = 53 := by omega
  have least : min (a.exponent - b.exponent) (a.exponent - b.exponent - 53) = a.exponent - b.exponent - 53 := by omega
  simp only [divCore, target, least, shift, Nat.shiftLeft_eq]

/-- The quotient of two doubles is the one that covers the exact quotient. -/
theorem Wide.div_toFloat (ha : a.Wide) (hb : b.Wide) (hc : c.Normalized) (near : -1021 ≤ a.exponent - b.exponent)
    (covers : c.Covers (a.toRat / b.toRat)) :
    toFloat .positive ha.normalized / toFloat .positive hb.normalized = toFloat .positive hc := by
  have divisor : (b.significand : ℚ) ≠ 0 := Nat.cast_ne_zero.2 (Nat.ne_of_gt hb.normalized.pos)
  have quotient : 2 ^ 52 ≤ a.significand * 2 ^ 53 / b.significand := by
    rw [Nat.le_div_iff_mul_le hb.normalized.pos]
    exact Nat.mul_le_mul ha.wide hb.normalized.significand_lt.le
  have some_bit : a.significand * 2 ^ 53 / b.significand ≠ 0 := by omega
  have places := (Nat.le_log2 some_bit).2 quotient
  have value : ((a.significand * 2 ^ 53 : Nat) / b.significand : ℚ) * 2 ^ (a.exponent - b.exponent - 53) =
      a.toRat / b.toRat := by
    have power : (2 : ℚ) ^ b.exponent ≠ 0 := zpow_ne_zero _ two_ne_zero
    rw [zpow_sub₀ two_ne_zero, zpow_sub₀ two_ne_zero, toRat, toRat]
    push_cast
    field_simp
  have rounded := roundWithAccuracy_eq hc (shows_div _ hb.normalized.pos) some_bit
    (show a.exponent - b.exponent - 53 ≤ _ by omega) (value ▸ covers) .positive
  change Float.ofModel (.pack (UnpackedFloat.div .binary64 (toFloat .positive ha.normalized).toModel.unpack
    (toFloat .positive hb.normalized).toModel.unpack)) = _
  rw [unpack_toFloat, unpack_toFloat]
  simp only [UnpackedFloat.div, ha.divCore_eq hb near]
  exact congrArg (fun result => Float.ofModel (.pack result)) rounded

/-! ## Whole numbers -/

/-- The double `n · 2 ^ place`, for a number `n` of at most 53 bits. -/
def widened (n : Nat) (place : Int) : Binary :=
  ⟨n <<< (52 - n.log2), n.log2 - 52 + place⟩

section

variable {n : Nat} {place : Int}

theorem toRat_widened (place : Int) (small : n < 2 ^ 53) : (widened n place).toRat = n * 2 ^ place := by
  have places := log2_lt_of_lt small (by decide)
  have exponent : (n.log2 : Int) - 52 + place = -(52 - n.log2 : Nat) + place := by omega
  rw [toRat, widened, Nat.shiftLeft_eq, exponent, zpow_add₀ two_ne_zero, zpow_neg, zpow_natCast]
  push_cast
  field_simp

theorem widened_wide (pos : 0 < n) (small : n < 2 ^ 53) (least : -1022 ≤ place) (greatest : place ≤ 971) :
    (widened n place).Wide := by
  have places := log2_lt_of_lt small (by decide)
  have first := Nat.log2_self_le (Nat.ne_of_gt pos)
  have last := @Nat.lt_log2_self n
  have low : 2 ^ 52 ≤ n <<< (52 - n.log2) := by
    rw [Nat.shiftLeft_eq]
    calc 2 ^ 52 = 2 ^ n.log2 * 2 ^ (52 - n.log2) := by rw [← Nat.pow_add]; congr 1; omega
      _ ≤ n * 2 ^ (52 - n.log2) := Nat.mul_le_mul_right _ first
  have high : n <<< (52 - n.log2) < 2 ^ 53 := by
    rw [Nat.shiftLeft_eq]
    calc n * 2 ^ (52 - n.log2) < 2 ^ (n.log2 + 1) * 2 ^ (52 - n.log2) :=
          Nat.mul_lt_mul_of_pos_right last (Nat.pow_pos Nat.two_pos)
      _ = 2 ^ 53 := by rw [← Nat.pow_add]; congr 1; omega
  refine ⟨⟨?_, high, ?_, ?_, .inl low⟩, low⟩
  · exact Nat.lt_of_lt_of_le (by decide) low
  · simp only [widened]
    omega
  · simp only [widened]
    omega

/-- A whole number of at most 53 bits is a double. -/
theorem toFloat_natCast (pos : 0 < n) (small : n < 2 ^ 53) :
    n.toUInt64.toFloat =
      toFloat .positive (@widened_wide n 0 pos small (by decide) (by decide)).normalized := by
  have wide := @widened_wide n 0 pos small (by decide) (by decide)
  have first := log2_lt_of_lt small (by decide)
  have value : n.toUInt64.toNat = n := Nat.mod_eq_of_lt (small.trans (by decide))
  have target : Format.binary64.targetExponent (totalExponent n 0) = n.log2 - 52 := by
    rw [targetExponent_eq]
    omega
  have shift : (0 - (n.log2 - 52 : Int)).toNat = 52 - n.log2 := by omega
  have exponent : (0 : Int) - (52 - n.log2 : Nat) = (widened n 0).exponent := by
    simp only [widened]
    omega
  have rounded := roundWithAccuracy_eq wide.normalized (shows_exact (widened n 0).significand)
    (Nat.ne_of_gt wide.normalized.pos) wide.normalized.target_eq.ge (covers_toRat _) .positive
  change Float.ofModel (.pack (UnpackedFloat.normalize .binary64 n.toUInt64.toNat 0 .positive)) = _
  rw [value]
  unfold UnpackedFloat.normalize
  rw [Int.compare_eq_gt.2 (Int.natCast_pos.2 pos)]
  simp only [Int.toNat_natCast, UnpackedFloat.round, target, decreaseExponent, shift, exponent]
  exact congrArg (fun result => Float.ofModel (.pack result)) rounded

end

end Binary

end CarbonSurvey.Decimal
