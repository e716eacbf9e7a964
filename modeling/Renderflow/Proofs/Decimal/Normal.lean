import Mathlib
import Renderflow.Decimal.Rounding
import Renderflow.Proofs.Decimal.Whole

/-!
# Normal doubles

A normal double has a mantissa of exactly 53 bits. A number of more bits is rounded to a normal
double, which is off by at most one unit in its last place, and a number of exactly 53 bits is kept.
-/

namespace Renderflow.Decimal

open Float.Model Float.Model.UnpackedFloat

/-! ## The fields of a double -/

theorem fractionField_eq (x : Float) :
    fractionField x = (@unpackMantissa Format.binary64 x.toModel.toBits.toBitVec).toNat := by
  have hbits : x.toBits.toNat = x.toModel.toBits.toBitVec.toNat := rfl
  rw [fractionField, hbits, unpackMantissa_def, BitVec.extractLsb'_toNat, Nat.shiftRight_zero]
  rfl

theorem signBit_eq (x : Float) :
    signBit x = (@unpackSign Format.binary64 x.toModel.toBits.toBitVec != 0) := by
  have hbits : x.toBits.toNat = x.toModel.toBits.toBitVec.toNat := rfl
  have hlt := x.toModel.toBits.toBitVec.isLt
  have hsign : (@unpackSign Format.binary64 x.toModel.toBits.toBitVec).toNat =
      x.toBits.toNat >>> 63 := by
    rw [hbits, unpackSign_def, BitVec.extractLsb'_toNat]
    show x.toModel.toBits.toBitVec.toNat >>> 63 % 2 = _
    rw [Nat.shiftRight_eq_div_pow]
    omega
  have hone := (@unpackSign Format.binary64 x.toModel.toBits.toBitVec).isLt
  rw [signBit, ← hsign, Bool.eq_iff_iff, beq_iff_eq, bne_iff_ne, Ne, ← BitVec.toNat_inj]
  show _ ↔ ¬ _ = 0
  omega

theorem fractionField_lt (x : Float) : fractionField x < 2 ^ 52 :=
  Nat.mod_lt _ (by decide)

theorem toNat_one_append (v : BitVec 52) : ((1#1 ++ v : BitVec 53)).toNat = v.toNat + 2 ^ 52 := by
  rw [BitVec.toNat_append, Nat.shiftLeft_eq, Nat.mul_comm, ← Nat.two_pow_add_eq_or_of_lt v.isLt,
    Nat.add_comm]
  rfl

/-- A double that is neither an infinity nor NaN, and no subnormal number. -/
theorem unpack_eq {x : Float} (hzero : exponentField x ≠ 0) (hfinite : exponentField x ≠ 2047) :
    x.toModel.unpack =
      .finite (if signBit x then .negative else .positive) (fractionField x + 2 ^ 52)
        ((exponentField x : Int) - 1075) (by omega) := by
  rw [exponentField_eq] at hzero hfinite
  simp only [exponentField_eq, fractionField_eq, signBit_eq]
  unfold Float.Model.unpack UnpackedFloat.unpack
  simp only
  rw [if_neg (fun h => hfinite (congrArg BitVec.toNat h)),
    if_neg (fun h => hzero (congrArg BitVec.toNat h))]
  congr 1
  · simp [Sign.ofBitVec]
  · exact toNat_one_append _

/-- A positive double with all 53 bits of its mantissa. -/
structure Normal (x : Float) (m : Nat) (e : Int) : Prop where
  value : Binary.ofFloat? x = some ⟨false, m, e⟩
  low : 2 ^ 52 ≤ m

variable {x : Float} {m : Nat} {e : Int}

theorem Normal.unpack (h : Normal x m e) :
    m < 2 ^ 53 ∧ x.toModel.unpack = .finite .positive m e (by have := h.low; omega) := by
  have hlow := h.low
  have hvalue := h.value
  have hfraction := fractionField_lt x
  simp only [Binary.ofFloat?, isFinite, bne_iff_ne] at hvalue
  obtain ⟨hfinite, hbinary⟩ := ite_eq_iff.1 hvalue |>.resolve_right (by simp)
  obtain ⟨hsign, hm, he⟩ := Binary.mk.inj (Option.some.inj hbinary)
  have hzero : exponentField x ≠ 0 := by
    intro hzero
    rw [if_pos hzero] at hm
    omega
  rw [if_neg hzero] at hm
  subst hm he
  refine ⟨by omega, ?_⟩
  rw [unpack_eq hzero hfinite, hsign]
  congr 1
  omega

theorem normal_of_toModel {hm : 0 < m} (hlow : 2 ^ 52 ≤ m) (hhigh : m < 2 ^ 53)
    (helow : -1074 ≤ e) (hehigh : e ≤ 971)
    (hx : x.toModel = .pack (.finite .positive m e hm)) : Normal x m e := by
  have hlog : m.log2 = 52 := (Nat.log2_eq_iff (by omega)).2 ⟨hlow, hhigh⟩
  have hbits : x.toModel.toBits.toBitVec = packComponents Format.binary64 .positive
      (BitVec.ofNat 11 (e + 1075).toNat) (BitVec.ofNat 52 m) := by
    rw [hx]
    show UnpackedFloat.pack Format.binary64 (.finite .positive m e hm) = _
    rw [pack_finite, if_neg (by omega), if_pos (by omega)]
    congr 3
    omega
  have hsign : signBit x = false := by
    rw [signBit_eq, hbits, unpackSign_packComponents]
    rfl
  have hexponent : exponentField x = (e + 1075).toNat := by
    rw [exponentField_eq, hbits, unpackExponent_packComponents, BitVec.toNat_ofNat]
    show _ % 2 ^ 11 = _
    omega
  have hfraction : fractionField x + 2 ^ 52 = m := by
    rw [fractionField_eq, hbits, unpackMantissa_packComponents, BitVec.toNat_ofNat]
    show m % 2 ^ 52 + 2 ^ 52 = m
    omega
  refine ⟨?_, hlow⟩
  rw [Binary.ofFloat?, isFinite, hsign, hexponent, if_pos (by rw [bne_iff_ne]; omega),
    if_neg (by omega)]
  congr 2
  omega

/-! ## Rounding -/

theorem le_roundedMantissa (em : ExtendedMantissa) : em.mantissa ≤ em.roundedMantissa := by
  unfold ExtendedMantissa.roundedMantissa Accuracy.roundToNearestEven
  split <;> omega

theorem shiftRight_mul_two_pow (a n : Nat) :
    (ExtendedMantissa.ofMantissaAndAccuracy (a * 2 ^ n) .exact) >>> n = ⟨a, false, false⟩ := by
  show Nat.repeat ExtendedMantissa.shiftRightOne n ⟨a * 2 ^ n, false, false⟩ = _
  induction n generalizing a with
  | zero => simp [Nat.repeat]
  | succ n ih =>
    rw [Nat.repeat, pow_succ', ← Nat.mul_assoc, ih]
    simp [ExtendedMantissa.shiftRightOne]

/-- The first rounding drops `k` bits and moves a mantissa by less than the least bit it keeps. -/
theorem roundedMantissa_shiftRight (m k : Nat) :
    let q := (ExtendedMantissa.ofMantissaAndAccuracy m .exact >>> k).roundedMantissa
    m / 2 ^ k ≤ q ∧ q ≤ m / 2 ^ k + 1 ∧ ∀ a, m = a * 2 ^ k → q = a := by
  have hmantissa := mantissa_shiftRight (ExtendedMantissa.ofMantissaAndAccuracy m .exact) k
  refine ⟨hmantissa ▸ le_roundedMantissa _, hmantissa ▸ roundedMantissa_le _, ?_⟩
  rintro a rfl
  rw [shiftRight_mul_two_pow]
  rfl

/-- A number of more than 53 bits is shifted by the bits that are too many. -/
theorem shiftToTargetExponent_of_log2 {k : Nat} (hk : m.log2 = k + 52) (he : -1074 ≤ e) :
    shiftToTargetExponent Format.binary64 m e .exact =
      (ExtendedMantissa.ofMantissaAndAccuracy m .exact >>> k, e + k) := by
  have hamount : (max ((k + 52 : Nat) + 1 + e - 53) (-1074) - e).toNat = k := by omega
  have htarget : Format.binary64.targetExponent (totalExponent m e) =
      max ((k + 52 : Nat) + 1 + e - 53) (-1074) := by
    simp only [Format.targetExponent, Format.minExponent, totalExponent, mantissaBits_binary64, hk]
    norm_num
  rw [shiftToTargetExponent, htarget, shiftToExponent, hamount]

/-- The first rounding of a number of `k + 53` bits keeps 53 bits of it. -/
theorem roundWithAccuracy_of_lt {s : Sign} {k q : Nat} (hk : m.log2 = k + 52) (he : -1074 ≤ e)
    (hq : (ExtendedMantissa.ofMantissaAndAccuracy m .exact >>> k).roundedMantissa = q)
    (hlow : 2 ^ 52 ≤ q) (hhigh : q < 2 ^ 53) :
    roundWithAccuracy Format.binary64 s m e .exact = .finite s q (e + k) (by omega) := by
  have hlog : q.log2 = 0 + 52 := (Nat.log2_eq_iff (by omega)).2 ⟨hlow, hhigh⟩
  have hmantissa : (ExtendedMantissa.ofMantissaAndAccuracy q .exact >>> 0).mantissa = q := rfl
  have hagain := shiftToTargetExponent_of_log2 (e := e + k) hlog (by omega)
  unfold roundWithAccuracy
  rw [shiftToTargetExponent_of_log2 hk he]
  simp only [hq, hagain, hmantissa, Nat.cast_zero, add_zero]
  exact dif_neg (by omega)

/-- A carry out of the first rounding takes one more bit. -/
theorem roundWithAccuracy_of_carry {s : Sign} {k : Nat} (hk : m.log2 = k + 52) (he : -1074 ≤ e)
    (hq : (ExtendedMantissa.ofMantissaAndAccuracy m .exact >>> k).roundedMantissa = 2 ^ 53) :
    roundWithAccuracy Format.binary64 s m e .exact =
      .finite s (2 ^ 52) (e + (k + 1 : Nat)) (Nat.two_pow_pos 52) := by
  have hlog : (2 ^ 53).log2 = 1 + 52 := Nat.log2_two_pow
  have hmantissa : (ExtendedMantissa.ofMantissaAndAccuracy (2 ^ 53) .exact >>> 1).mantissa =
      2 ^ 52 := rfl
  have hagain := shiftToTargetExponent_of_log2 (e := e + k) hlog (by omega)
  unfold roundWithAccuracy
  rw [shiftToTargetExponent_of_log2 hk he]
  simp only [hq, hagain, hmantissa]
  rw [dif_neg (by omega)]
  congr 1
  push_cast
  ring

/-- The mantissa `r` of 53 bits and `j` lower bits stand for `m`, but for one unit in the last
place of `r`. -/
structure Rounds (m r j : Nat) : Prop where
  low : 2 ^ 52 ≤ r
  high : r < 2 ^ 53
  shift : j ≤ m.log2 - 51
  below : 2 ^ 52 * m ≤ 2 ^ 52 * (r * 2 ^ j) + m
  above : 2 ^ 52 * (r * 2 ^ j) ≤ 2 ^ 52 * m + m

theorem exists_rounds (s : Sign) {k : Nat} (hk : m.log2 = k + 52) (he : -1074 ≤ e) :
    ∃ r j h, roundWithAccuracy Format.binary64 s m e .exact = .finite s r (e + (j : Nat)) h ∧
      Rounds m r j ∧ ∀ a < 2 ^ 53, m = a * 2 ^ k → r = a ∧ j = k := by
  have hpos := Nat.two_pow_pos k
  have hne : m ≠ 0 := by
    rintro rfl
    simp at hk
  have hbits : 2 ^ k * 2 ^ 52 ≤ m ∧ m < 2 ^ k * 2 ^ 53 := by
    rw [← pow_add, ← pow_add, ← Nat.log2_eq_iff hne]
    exact hk
  have hfloor := Nat.div_mul_le_self m (2 ^ k)
  have hceil := Nat.lt_div_mul_add hpos (a := m)
  obtain ⟨hle, hge, hexact⟩ := roundedMantissa_shiftRight m k
  generalize hq : (ExtendedMantissa.ofMantissaAndAccuracy m .exact >>> k).roundedMantissa = q
    at hle hge hexact
  have hfirst : 2 ^ 52 ≤ m / 2 ^ k := (Nat.le_div_iff_mul_le hpos).2 (by linarith)
  have hlast : m / 2 ^ k < 2 ^ 53 := (Nat.div_lt_iff_lt_mul hpos).2 (by linarith)
  have hbelow := Nat.mul_le_mul_right (2 ^ k) hle
  have habove := Nat.mul_le_mul_right (2 ^ k) hge
  rw [Nat.add_mul] at habove
  -- the first rounding keeps 53 bits, or it carries into one more and is rounded again
  rcases Nat.lt_or_ge q (2 ^ 53) with hlt | hcarry
  · exact ⟨q, k, _, roundWithAccuracy_of_lt hk he hq (by omega) hlt,
      ⟨by omega, hlt, by omega, by linarith, by linarith⟩, fun a _ ha => ⟨hexact a ha, rfl⟩⟩
  · obtain rfl : q = 2 ^ 53 := by omega
    refine ⟨2 ^ 52, k + 1, _, roundWithAccuracy_of_carry hk he hq,
      ⟨by omega, by omega, by omega, ?_, ?_⟩, fun a hlt ha => ?_⟩
    · rw [pow_succ 2 k]
      linarith
    · rw [pow_succ 2 k]
      linarith
    · have hq := hexact a ha
      omega

theorem exists_normal_round {k : Nat} (hk : m.log2 = k + 52) (he : -1074 ≤ e)
    (hhigh : e + k ≤ 970)
    (hx : x.toModel = .pack (roundWithAccuracy Format.binary64 .positive m e .exact)) :
    ∃ r j, Normal x r (e + (j : Nat)) ∧ Rounds m r j ∧
      ∀ a < 2 ^ 53, m = a * 2 ^ k → r = a ∧ j = k := by
  obtain ⟨r, j, h, hround, hrounds, hexact⟩ := exists_rounds .positive hk he
  have hj := hrounds.shift
  rw [hround] at hx
  exact ⟨r, j, normal_of_toModel hrounds.low hrounds.high (by omega) (by omega) hx, hrounds,
    hexact⟩

/-- A whole number of at most 53 bits is scaled up to exactly 53 bits. -/
theorem scaled_bounds {n : Nat} (hpos : n ≠ 0) (hn : n < 2 ^ 53) :
    2 ^ 52 ≤ n * 2 ^ (52 - n.log2) ∧ n * 2 ^ (52 - n.log2) < 2 ^ 53 := by
  have hlog : n.log2 < 53 := (Nat.log2_lt hpos).2 hn
  obtain ⟨hlow, hhigh⟩ := (Nat.log2_eq_iff hpos).1 (Eq.refl n.log2)
  have hscale : 2 ^ n.log2 * 2 ^ (52 - n.log2) = 2 ^ 52 := by
    rw [← pow_add]
    congr 1
    omega
  rw [pow_succ] at hhigh
  have hpow := Nat.two_pow_pos (52 - n.log2)
  constructor
  · nlinarith
  · nlinarith

theorem normal_toFloat {n : UInt64} (hpos : n.toNat ≠ 0) (hn : n.toNat < 2 ^ 53) :
    Normal n.toFloat (n.toNat * 2 ^ (52 - n.toNat.log2)) (n.toNat.log2 - 52) := by
  have hlog : n.toNat.log2 < 53 := (Nat.log2_lt hpos).2 hn
  obtain ⟨hlow, hhigh⟩ := scaled_bounds hpos hn
  have hgt : compare (n.toNat : Int) 0 = .gt := Int.compare_eq_gt.2 (by omega)
  have htarget : Format.binary64.targetExponent (totalExponent n.toNat 0) =
      (n.toNat.log2 : Int) - 52 := by
    simp only [Format.targetExponent, Format.minExponent, totalExponent, mantissaBits_binary64]
    norm_num
    omega
  have hamount : (0 - ((n.toNat.log2 : Int) - 52)).toNat = 52 - n.toNat.log2 := by omega
  have hmodel : n.toFloat.toModel =
      .pack (UnpackedFloat.normalize Format.binary64 (n.toNat : Int) 0 .positive) := rfl
  simp only [UnpackedFloat.normalize, hgt, UnpackedFloat.round, Int.toNat_natCast, htarget,
    decreaseExponent, hamount, Nat.shiftLeft_eq] at hmodel
  have hscaled : (n.toNat * 2 ^ (52 - n.toNat.log2)).log2 = 0 + 52 :=
    (Nat.log2_eq_iff (by omega)).2 ⟨hlow, hhigh⟩
  obtain ⟨r, j, hnormal, -, hexact⟩ :=
    exists_normal_round hscaled (by omega) (by omega) hmodel
  obtain ⟨rfl, rfl⟩ := hexact _ hhigh (by rw [pow_zero, Nat.mul_one])
  convert hnormal using 1
  omega

end Renderflow.Decimal
