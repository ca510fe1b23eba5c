import CarbonSurvey.Decimal.Layout
import CarbonSurvey.Proofs.Decimal.Rounding

/-! # Doubles and their bits

A double is its sign and its absolute value (`Binary.eq_of_ofFloat`), and each sign and normalized absolute value is
packed into a double from which it is unpacked as it was (`Binary.ofFloat_toFloat`, `Binary.unpack_toFloat`).
-/

namespace CarbonSurvey.Decimal

open Float.Model Float.Model.UnpackedFloat

/-- The three fields of a double, read as one number. -/
theorem toNat_packComponents (sign : Sign) (exponent : BitVec 11) (mantissa : BitVec 52) :
    (packComponents .binary64 sign exponent mantissa).toNat =
      sign.toBitVec.toNat * 2 ^ 63 + exponent.toNat * 2 ^ 52 + mantissa.toNat := by
  unfold packComponents
  rw [BitVec.toNat_append, BitVec.toNat_append, ← Nat.shiftLeft_add_eq_or_of_lt mantissa.isLt,
    ← Nat.shiftLeft_add_eq_or_of_lt exponent.isLt, Nat.shiftLeft_eq, Nat.shiftLeft_eq]
  omega

theorem toNat_unpackExponent (bits : BitVec 64) :
    (@unpackExponent .binary64 bits).toNat = bits.toNat / 2 ^ 52 % 2 ^ 11 := by
  simp [unpackExponent, Nat.shiftRight_eq_div_pow]

namespace Binary

/-- A double is its sign and its absolute value. -/
theorem eq_of_ofFloat {x y : Float} (value : ofFloat x = ofFloat y)
    (sign : Layout.isNegative x = Layout.isNegative y) : x = y := by
  have hx := x.toBits.toNat_lt
  have hy := y.toBits.toNat_lt
  refine Float.toBits_inj.1 (UInt64.toNat_inj.1 ?_)
  simp only [Layout.isNegative, Nat.pow_eq] at sign
  simp only [ofFloat, Nat.pow_eq] at value
  norm_num at sign value hx hy
  have sides : x.toBits.toNat / 9223372036854775808 = y.toBits.toNat / 9223372036854775808 := by
    omega
  split at value <;> split at value <;> simp only [Binary.mk.injEq] at value <;> omega

variable {b : Binary}

/-- The double with this sign and this absolute value. -/
def toFloat (sign : Sign) (normalized : b.Normalized) : Float :=
  .ofModel (.pack (.finite sign b.significand b.exponent normalized.pos))

theorem Normalized.biased_bounds (normalized : b.Normalized) :
    (b.exponent + 1023 + 52).toNat = (b.exponent + 1075).toNat ∧ ¬ 2 ^ 11 ≤ (b.exponent + 1075).toNat + 1 := by
  have least := normalized.le_exponent
  have greatest := normalized.exponent_le
  omega

theorem pack_of_normal (sign : Sign) (normalized : b.Normalized) (wide : 2 ^ 52 ≤ b.significand) :
    UnpackedFloat.pack .binary64 (.finite sign b.significand b.exponent normalized.pos) =
      packComponents .binary64 sign (.ofNat 11 (b.exponent + 1075).toNat) (.ofNat 52 b.significand) := by
  have bias : Format.binary64.exponentBias = 1023 := rfl
  have bits : Format.binary64.mantissaBits = 53 := rfl
  have first : b.significand.log2 + 1 = 53 := by
    have lower := (Nat.le_log2 (Nat.ne_of_gt normalized.pos)).2 wide
    have upper := log2_lt_of_lt normalized.significand_lt (by decide)
    omega
  simp only [UnpackedFloat.pack, bias, bits, Nat.cast_ofNat, normalized.biased_bounds, if_false, first, if_true]

theorem pack_of_subnormal (sign : Sign) (normalized : b.Normalized) (narrow : b.significand < 2 ^ 52) :
    UnpackedFloat.pack .binary64 (.finite sign b.significand b.exponent normalized.pos) =
      packComponents .binary64 sign 0#11 (.ofNat 52 b.significand) := by
  have bias : Format.binary64.exponentBias = 1023 := rfl
  have bits : Format.binary64.mantissaBits = 53 := rfl
  have first : ¬ b.significand.log2 + 1 = 53 := by
    have upper := log2_lt_of_lt narrow (by decide)
    omega
  simp only [UnpackedFloat.pack, bias, bits, Nat.cast_ofNat, normalized.biased_bounds, if_false, first]

theorem toNat_toBits_toFloat (sign : Sign) (normalized : b.Normalized) :
    (toFloat sign normalized).toBits.toNat = sign.toBitVec.toNat * 2 ^ 63 +
      (if 2 ^ 52 ≤ b.significand then (b.exponent + 1075).toNat else 0) * 2 ^ 52 + b.significand % 2 ^ 52 := by
  change (UnpackedFloat.pack .binary64 (.finite sign b.significand b.exponent normalized.pos)).toNat = _
  by_cases wide : 2 ^ 52 ≤ b.significand
  · have field : (b.exponent + 1075).toNat % 2 ^ 11 = (b.exponent + 1075).toNat := by
      have greatest := normalized.exponent_le
      omega
    rw [pack_of_normal sign normalized wide, toNat_packComponents, BitVec.toNat_ofNat, BitVec.toNat_ofNat, field,
      if_pos wide]
  · rw [pack_of_subnormal sign normalized (Nat.lt_of_not_le wide), toNat_packComponents, BitVec.toNat_ofNat,
      if_neg wide]
    rfl

theorem ofFloat_toFloat (sign : Sign) (normalized : b.Normalized) : ofFloat (toFloat sign normalized) = b := by
  have bits := toNat_toBits_toFloat sign normalized
  have one_bit := sign.toBitVec.isLt
  have small := normalized.significand_lt
  have least := normalized.le_exponent
  have greatest := normalized.exponent_le
  have normal := normalized.normal
  obtain ⟨significand, exponent⟩ := b
  simp only [ofFloat, Nat.pow_eq]
  dsimp only at bits small least greatest normal
  norm_num at bits small normal ⊢
  split at bits <;> split <;> simp only [Binary.mk.injEq] <;> omega

theorem isNegative_toFloat (sign : Sign) (normalized : b.Normalized) :
    Layout.isNegative (toFloat sign normalized) = (sign.toBitVec.toNat == 1) := by
  have bits := toNat_toBits_toFloat sign normalized
  have least := normalized.le_exponent
  have greatest := normalized.exponent_le
  have field : (if 2 ^ 52 ≤ b.significand then (b.exponent + 1075).toNat else 0) < 2 ^ 11 := by
    split <;> omega
  have rest := Nat.mod_lt b.significand (show 0 < 2 ^ 52 by decide)
  have first : (toFloat sign normalized).toBits.toNat / Nat.pow 2 63 = sign.toBitVec.toNat := by
    rw [Nat.pow_eq]
    omega
  rw [Layout.isNegative, first]

theorem unpack_pack_of_normal (sign : Sign) (normalized : b.Normalized) (wide : 2 ^ 52 ≤ b.significand) :
    UnpackedFloat.unpack .binary64
        (UnpackedFloat.pack .binary64 (.finite sign b.significand b.exponent normalized.pos)) =
      .finite sign b.significand b.exponent normalized.pos := by
  have least := normalized.le_exponent
  have greatest := normalized.exponent_le
  have bias : Format.binary64.exponentBias = 1023 := rfl
  have field : (BitVec.ofNat 11 (b.exponent + 1075).toNat).toNat = (b.exponent + 1075).toNat := by
    rw [BitVec.toNat_ofNat]
    omega
  have not_last : BitVec.ofNat 11 (b.exponent + 1075).toNat ≠ -1#11 := by
    intro same
    rw [same] at field
    change 2047 = _ at field
    omega
  have not_zero : BitVec.ofNat 11 (b.exponent + 1075).toNat ≠ 0#11 := by
    intro same
    rw [same] at field
    change 0 = _ at field
    omega
  -- the first bit of the significand is not stored
  have significand : (1#1 ++ BitVec.ofNat 52 b.significand).toNat = b.significand := by
    have small := normalized.significand_lt
    have rest : (BitVec.ofNat 52 b.significand).toNat = b.significand % 2 ^ 52 := BitVec.toNat_ofNat ..
    rw [BitVec.toNat_append, ← Nat.shiftLeft_add_eq_or_of_lt (BitVec.isLt _), rest, Nat.shiftLeft_eq]
    change 1 * 2 ^ 52 + _ = _
    omega
  rw [pack_of_normal sign normalized wide]
  simp only [UnpackedFloat.unpack, unpackMantissa_packComponents, unpackExponent_packComponents,
    unpackSign_packComponents, Sign.ofBitVec_toBitVec, not_last, not_zero, if_false, field, significand, bias]
  congr 1
  omega

theorem unpack_pack_of_subnormal (sign : Sign) (normalized : b.Normalized) (narrow : b.significand < 2 ^ 52) :
    UnpackedFloat.unpack .binary64
        (UnpackedFloat.pack .binary64 (.finite sign b.significand b.exponent normalized.pos)) =
      .finite sign b.significand b.exponent normalized.pos := by
  have bias : Format.binary64.exponentBias = 1023 := rfl
  have bottom := normalized.normal.resolve_left (Nat.not_le_of_lt narrow)
  have significand : (BitVec.ofNat 52 b.significand).toNat = b.significand := by
    rw [BitVec.toNat_ofNat]
    omega
  have not_zero : BitVec.ofNat 52 b.significand ≠ 0#52 := by
    intro same
    rw [same] at significand
    exact Nat.ne_of_lt normalized.pos significand
  have not_last : 0#11 ≠ -1#11 := by decide
  rw [pack_of_subnormal sign normalized narrow]
  simp only [UnpackedFloat.unpack, unpackMantissa_packComponents, unpackExponent_packComponents,
    unpackSign_packComponents, Sign.ofBitVec_toBitVec, not_last, not_zero, if_false, if_true, dite_false,
    significand, bias, bottom]
  rfl

/-- What is packed is unpacked as it was. -/
theorem unpack_toFloat (sign : Sign) (normalized : b.Normalized) :
    (toFloat sign normalized).toModel.unpack = .finite sign b.significand b.exponent normalized.pos := by
  by_cases wide : 2 ^ 52 ≤ b.significand
  · exact unpack_pack_of_normal sign normalized wide
  · exact unpack_pack_of_subnormal sign normalized (Nat.lt_of_not_le wide)

/-- The absolute value of a finite double is normalized, unless it is zero. -/
theorem normalized_ofFloat {x : Float} (finite : x.isFinite) (nonzero : (ofFloat x).significand ≠ 0) :
    (ofFloat x).Normalized := by
  have field : x.toBits.toNat / 2 ^ 52 % 2 ^ 11 ≠ 2047 := by
    intro last
    have exponent : @unpackExponent .binary64 x.toModel.toBits.toBitVec = -1#11 :=
      BitVec.eq_of_toNat_eq ((toNat_unpackExponent _).trans last)
    change (UnpackedFloat.unpack .binary64 x.toModel.toBits.toBitVec).isFinite = true at finite
    simp only [UnpackedFloat.unpack, exponent, if_true] at finite
    split at finite <;> cases finite
  simp only [ofFloat, Nat.pow_eq] at nonzero ⊢
  split at nonzero
  · next bottom =>
    rw [if_pos bottom]
    exact ⟨Nat.pos_of_ne_zero nonzero, by dsimp only; omega, Int.le_refl _, by dsimp only; omega, .inr rfl⟩
  · next higher =>
    rw [if_neg higher]
    exact ⟨by dsimp only; omega, by dsimp only; omega, by dsimp only; omega, by dsimp only; omega,
      .inl (Nat.le_add_right _ _)⟩

end Binary

end CarbonSurvey.Decimal
