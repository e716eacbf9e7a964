import Mathlib.Tactic.NormNum
import Mathlib.Tactic.Positivity
import Renderflow.Decimal.Binary

/-!
# Whole numbers as doubles

Rounding to a double keeps at most 53 bits of a mantissa and moves the exponent to make up for
the rest, so a whole number of 64 bits is rounded to a finite double.
-/

namespace Renderflow.Decimal

open Float.Model Float.Model.UnpackedFloat

theorem exponentField_eq (x : Float) :
    exponentField x =
      (@unpackExponent Format.binary64 x.toModel.toBits.toBitVec).toNat := by
  have hbits : x.toBits.toNat = x.toModel.toBits.toBitVec.toNat := rfl
  rw [exponentField, hbits, unpackExponent, BitVec.toNat_cast, BitVec.extractLsb_toNat]
  rfl

theorem mantissa_shiftRight (em : ExtendedMantissa) (n : Nat) :
    (em >>> n).mantissa = em.mantissa / 2 ^ n := by
  show (Nat.repeat ExtendedMantissa.shiftRightOne n em).mantissa = _
  induction n with
  | zero => simp [Nat.repeat]
  | succ n ih =>
    show (Nat.repeat ExtendedMantissa.shiftRightOne n em).mantissa / 2 = _
    rw [ih, Nat.div_div_eq_div_mul, pow_succ]

theorem roundedMantissa_le (em : ExtendedMantissa) : em.roundedMantissa ≤ em.mantissa + 1 := by
  unfold ExtendedMantissa.roundedMantissa Accuracy.roundToNearestEven
  split <;> omega

theorem mantissaBits_binary64 : Format.binary64.mantissaBits = 53 :=
  rfl

theorem shiftToTargetExponent_snd (m : Nat) (e : Int) (a : Accuracy) :
    (shiftToTargetExponent Format.binary64 m e a).2 =
      max e (max ((m.log2 : Int) + 1 + e - 53) (-1074)) := by
  simp only [shiftToTargetExponent, shiftToExponent, Format.targetExponent, Format.minExponent,
    totalExponent, mantissaBits_binary64]
  norm_num
  omega

theorem shiftToTargetExponent_fst (m : Nat) (e : Int) :
    (shiftToTargetExponent Format.binary64 m e .exact).1.mantissa =
      m / 2 ^ (max ((m.log2 : Int) + 1 + e - 53) (-1074) - e).toNat := by
  simp only [shiftToTargetExponent, shiftToExponent, Format.targetExponent, Format.minExponent,
    totalExponent, mantissaBits_binary64, mantissa_shiftRight]
  norm_num [ExtendedMantissa.ofMantissaAndAccuracy]

theorem pack_finite {s : Sign} {m : Nat} {e : Int} {h : 0 < m} :
    UnpackedFloat.pack Format.binary64 (.finite s m e h) =
      if 2048 ≤ (e + 1023 + 52).toNat + 1 then packedInfinity Format.binary64 s
      else if m.log2 + 1 = 53 then
        packComponents Format.binary64 s (BitVec.ofNat 11 (e + 1023 + 52).toNat) (BitVec.ofNat 52 m)
      else packComponents Format.binary64 s 0 (BitVec.ofNat 52 m) :=
  rfl

/-- A number is packed as an infinity only for an exponent beyond the largest one. -/
theorem unpackExponent_pack_ne {s : Sign} {m : Nat} {e : Int} {h : 0 < m} (he : e < 971) :
    (unpackExponent (UnpackedFloat.pack Format.binary64 (.finite s m e h))).toNat ≠ 2047 := by
  rw [pack_finite, if_neg (by omega)]
  split
  · rw [unpackExponent_packComponents, BitVec.toNat_ofNat]
    show (e + 1023 + 52).toNat % 2048 ≠ 2047
    omega
  · rw [unpackExponent_packComponents]
    decide

/-- Rounding a number well below the largest double gives no infinity. -/
theorem unpackExponent_pack_round {s : Sign} {m : Nat} {e : Int}
    (hhigh : (m.log2 : Int) + 1 + e - 53 < 900) (he : e ≤ 900) :
    (unpackExponent (UnpackedFloat.pack Format.binary64
      (roundWithAccuracy Format.binary64 s m e .exact))).toNat ≠ 2047 := by
  have hfst := shiftToTargetExponent_fst m e
  have hsnd := shiftToTargetExponent_snd m e .exact
  unfold roundWithAccuracy
  generalize shiftToTargetExponent Format.binary64 m e .exact = shifted at hfst hsnd ⊢
  obtain ⟨em, e₁⟩ := shifted
  dsimp only at hfst hsnd ⊢
  -- a carry out of the first rounding is why the mantissa is shifted a second time
  have hagain := shiftToTargetExponent_snd em.roundedMantissa e₁ .exact
  generalize shiftToTargetExponent Format.binary64 em.roundedMantissa e₁ .exact = shifted
    at hagain ⊢
  obtain ⟨em', e₂⟩ := shifted
  dsimp only at hagain ⊢
  have hmantissa : em.mantissa < 2 ^ 53 := by
    rw [hfst, Nat.div_lt_iff_lt_mul (by positivity), ← pow_add]
    refine lt_of_lt_of_le Nat.lt_log2_self (Nat.pow_le_pow_right (by norm_num) ?_)
    omega
  have hlog : em.roundedMantissa.log2 < 54 := by
    have hrounded := roundedMantissa_le em
    rcases Nat.eq_zero_or_pos em.roundedMantissa with hzero | hpos
    · simp [hzero]
    · exact (Nat.log2_lt hpos.ne').2 (by omega)
  by_cases hzero : em'.mantissa = 0
  · rw [dif_pos hzero]
    cases s <;> decide
  · rw [dif_neg hzero]
    exact unpackExponent_pack_ne (by omega)

theorem ofScientific_eq_round {n : Nat} (h : n ≠ 0) :
    UnpackedFloat.ofScientific Format.binary64 n 0 =
      roundWithAccuracy Format.binary64 .positive (n <<< 53) (-53) .exact := by
  unfold UnpackedFloat.ofScientific
  rw [dif_neg h, if_neg (by norm_num), if_neg (by norm_num), if_pos le_rfl]
  show roundWithAccuracy Format.binary64 .positive (n <<< 53 * 1) (-53 + 0) .exact = _
  rw [Nat.mul_one, add_zero]

/-- The numbers that are no signed word of 64 bits, but an unsigned one. -/
theorem isFinite_ofNat {n : Nat} (hlow : 2 ^ 63 ≤ n) (hhigh : n < 2 ^ 64) :
    isFinite (Float.ofNat n) := by
  have hmodel : (Float.ofNat n).toModel = Float.Model.ofScientific n 0 := by
    show (Float.ofScientific n false 0).toModel = _
    unfold Float.ofScientific
    rw [dif_neg (by omega)]
    rfl
  have hlog : (n <<< 53).log2 < 117 := by
    rw [Nat.shiftLeft_eq]
    exact (Nat.log2_lt (by omega)).2 (by omega)
  have hexponent := unpackExponent_pack_round (s := .positive) (m := n <<< 53) (e := -53)
    (by omega) (by omega)
  rw [← ofScientific_eq_round (by omega)] at hexponent
  rw [isFinite, exponentField_eq, hmodel, bne_iff_ne]
  exact hexponent

end Renderflow.Decimal
