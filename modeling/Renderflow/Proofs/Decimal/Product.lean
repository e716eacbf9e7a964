import Renderflow.Proofs.Decimal.Normal

/-!
# Products of doubles

The product of a whole number of 32 bits and a whole number of hundredths is rounded twice, to a
double and to a whole number. The result is a whole number nearest to the exact product.
-/

namespace Renderflow.Decimal

open Float.Model Float.Model.UnpackedFloat

variable {x : Float} {m : Nat} {e : Int}

/-- A product of two mantissas has one bit too many at least, and at most two more. -/
theorem exists_normal_mul {y : Float} {m' : Nat} {e' : Int} (hx : Normal x m e)
    (hy : Normal y m' e') (hlow : -1074 ≤ e + e') (hhigh : e + e' ≤ 900) :
    ∃ r j, Normal (x * y) r (e + e' + (j : Nat)) ∧ j ≤ 54 ∧ Rounds (m * m') r j ∧
      ∀ a < 2 ^ 53, m * m' = a * 2 ^ ((m * m').log2 - 52) → r = a ∧ j = (m * m').log2 - 52 := by
  obtain ⟨hm, hunpack⟩ := hx.unpack
  obtain ⟨hm', hunpack'⟩ := hy.unpack
  have hlowest : 2 ^ 52 * 2 ^ 52 ≤ m * m' := Nat.mul_le_mul hx.low hy.low
  have hhighest : m * m' < 2 ^ 53 * 2 ^ 53 := Nat.mul_lt_mul'' hm hm'
  have hbelow : 104 ≤ (m * m').log2 := (Nat.le_log2 (by omega)).2 hlowest
  have habove : (m * m').log2 < 106 := (Nat.log2_lt (by omega)).2 hhighest
  have hmul : (x * y).toModel =
      .pack (UnpackedFloat.mul Format.binary64 x.toModel.unpack y.toModel.unpack) := rfl
  rw [hunpack, hunpack'] at hmul
  have hbits : (m * m').log2 = (m * m').log2 - 52 + 52 := by omega
  obtain ⟨r, j, hnormal, hrounds, hexact⟩ := exists_normal_round hbits hlow (by omega) hmul
  have hj := hrounds.shift
  exact ⟨r, j, hnormal, by omega, hrounds, hexact⟩

theorem Normal.mul_comm {y : Float} {m' : Nat} {e' : Int} (hx : Normal x m e)
    (hy : Normal y m' e') : x * y = y * x := by
  have hmul (x y : Float) : x * y = .ofModel (.pack (UnpackedFloat.mul Format.binary64
      x.toModel.unpack y.toModel.unpack)) := rfl
  rw [hmul, hmul, hx.unpack.2, hy.unpack.2]
  simp only [UnpackedFloat.mul, Nat.mul_comm m, Int.add_comm e]

theorem normal_one : Normal 1.0 (2 ^ 52) (-52) :=
  ⟨by decide +kernel, le_rfl⟩

theorem normal_ofNat {n : Nat} (hpos : n ≠ 0) (hn : n < 2 ^ 53) :
    Normal (Float.ofNat n) (n * 2 ^ (52 - n.log2)) (n.log2 - 52) := by
  have hword : n.toUInt64.toNat = n := Nat.mod_eq_of_lt (by omega)
  have hmul : Float.ofNat n = n.toUInt64.toFloat * 1.0 := by
    show Float.ofScientific n false 0 = _
    unfold Float.ofScientific
    rw [dif_pos (by omega)]
    rfl
  have hlog : n.log2 < 53 := (Nat.log2_lt hpos).2 hn
  obtain ⟨hlow, hhigh⟩ := scaled_bounds hpos hn
  have hfloat := normal_toFloat (n := n.toUInt64) (by omega) (by omega)
  rw [hword] at hfloat
  obtain ⟨r, j, hnormal, -, -, hexact⟩ := exists_normal_mul hfloat normal_one (by omega) (by omega)
  have hproduct : (n * 2 ^ (52 - n.log2) * 2 ^ 52).log2 = 104 :=
    (Nat.log2_eq_iff (by omega)).2 ⟨by omega, by omega⟩
  rw [hproduct] at hexact
  obtain ⟨rfl, rfl⟩ := hexact _ hhigh rfl
  rw [hmul]
  convert hnormal using 1
  omega

theorem toUInt32_ofNat {n : Nat} (hn : n < 2 ^ 32) : (Float.ofNat n).toUInt32.toNat = n := by
  rcases eq_or_ne n 0 with rfl | hpos
  · decide +kernel
  have hlog : n.log2 < 53 := (Nat.log2_lt hpos).2 (by omega)
  have hunpack := (normal_ofNat hpos (by omega)).unpack.2
  have hdecrease : (((n.log2 : Int) - 52) - 0).toNat = 0 := by omega
  have hincrease : (0 - ((n.log2 : Int) - 52 - (0 : Nat))).toNat = 52 - n.log2 := by omega
  have hint : UnpackedFloat.toInt 0 (UInt32.size - 1) (Float.ofNat n).toModel.unpack = n := by
    rw [hunpack]
    simp only [UnpackedFloat.toInt, roundToInt, decreaseExponent, shiftToExponent, hdecrease,
      hincrease, mantissa_shiftRight]
    show ((n * 2 ^ (52 - n.log2) / 2 ^ (52 - n.log2) : Nat) : Int) = n
    rw [Nat.mul_div_cancel _ (Nat.two_pow_pos _)]
  show (UInt32.ofNatClamp (UnpackedFloat.toInt 0 (UInt32.size - 1)
    (Float.ofNat n).toModel.unpack).toNat).toNat = n
  rw [hint, Int.toNat_natCast]
  exact UInt32.toNat_ofNatClamp_of_lt hn

/-- A normal double below one gives, as the part of a whole number, another whole number. -/
theorem round_of_normal {d : Nat} (h : Normal x m (-(d + 1 : Nat))) :
    round x = Float.ofNat (divHalfUp m (2 ^ (d + 1))) := by
  have hneg : ¬ (0 : Int) ≤ -(d + 1 : Nat) := by omega
  have hquotient : Binary.quotient ⟨false, m, -(d + 1 : Nat)⟩ = (m, 2 ^ (d + 1)) := by
    have hzero : (-(d + 1 : Nat) : Int).toNat = 0 := by omega
    have hsucc : (-(-(d + 1 : Nat)) : Int).toNat = d + 1 := by omega
    simp only [Binary.quotient, hzero, hsucc, Nat.shiftLeft_zero, Nat.one_shiftLeft]
  simp only [round, h.value, if_neg hneg, hquotient, withSign, if_neg (by simp : ¬ false = true)]

/-- Two errors of one unit in the last place are too little to pass a whole number that is less
near. The double `m / p` stands for `c` hundredths, and the product with `n` is rounded to `q`. -/
theorem near_of_bounds {n c p q : Nat} (hn : n < 2 ^ 32) (hc : c ≤ 100)
    (hbelow : 2 ^ 52 * (c * p) ≤ 2 ^ 52 * (100 * m) + 100 * p)
    (habove : 2 ^ 52 * (100 * m) ≤ 2 ^ 52 * (c * p) + 100 * p) (hp : 0 < p)
    (hlow : 2 ^ 53 * (n * m) ≤ 2 ^ 53 * (p * q) + 2 * (n * m) + 2 ^ 52 * p)
    (hhigh : 2 ^ 53 * (p * q) ≤ 2 ^ 53 * (n * m) + 2 * (n * m) + 2 ^ 52 * p) :
    100 * q ≤ c * n + 50 ∧ c * n ≤ 100 * q + 50 := by
  have hmb := Nat.mul_le_mul_left n hbelow
  have hma := Nat.mul_le_mul_left n habove
  have hnp : n * p ≤ 2 ^ 32 * p := Nat.mul_le_mul_right p hn.le
  have hcnp : c * (n * p) ≤ 100 * (2 ^ 32 * p) := Nat.mul_le_mul hc hnp
  -- a whole number that is less near is off by 51 hundredths, for all of these are whole
  constructor
  · by_contra hlt
    have hq := Nat.mul_le_mul_left p (show c * n + 51 ≤ 100 * q by omega)
    linarith
  · by_contra hlt
    have hq := Nat.mul_le_mul_left p (show 100 * q + 51 ≤ c * n by omega)
    linarith

/-- The product of a whole number and a double that stands for `c` hundredths is rounded to a whole
number that is nearest to those hundredths of it. -/
theorem exists_round_mul {n c k : Nat} {y : Float} (hn : n ≠ 0) (hlt : n < 2 ^ 32)
    (hc : c ≤ 100) (hy : Normal y m (-(k : Int))) (hlow : 52 ≤ k) (hhigh : k ≤ 900)
    (hbelow : 2 ^ 52 * (c * 2 ^ k) ≤ 2 ^ 52 * (100 * m) + 100 * 2 ^ k)
    (habove : 2 ^ 52 * (100 * m) ≤ 2 ^ 52 * (c * 2 ^ k) + 100 * 2 ^ k) :
    ∃ q : Nat, round (Float.ofNat n * y) = Float.ofNat q ∧
      100 * q ≤ c * n + 50 ∧ c * n ≤ 100 * q + 50 := by
  have hlog : n.log2 < 32 := (Nat.log2_lt hn).2 hlt
  obtain ⟨r, j, hr, hj, hrounds, -⟩ :=
    exists_normal_mul (normal_ofNat hn (by omega)) hy (by omega) (by omega)
  obtain ⟨d, hd⟩ : ∃ d : Nat, (n.log2 - 52 + -(k : Int) + j) = -(d + 1 : Nat) :=
    ⟨51 + k - n.log2 - j, by omega⟩
  have hscale : 2 ^ (d + 1) * 2 ^ j = 2 ^ (52 - n.log2) * 2 ^ k := by
    rw [← pow_add, ← pow_add]
    congr 1
    omega
  obtain ⟨hnearLow, hnearHigh⟩ := divHalfUp_near r (2 ^ (d + 1)) (by positivity)
  rw [hd] at hr
  refine ⟨_, round_of_normal hr, ?_⟩
  generalize divHalfUp r (2 ^ (d + 1)) = q at hnearLow hnearHigh ⊢
  have hproductLow := hrounds.below
  have hproductHigh := hrounds.above
  have hpowLow := Nat.mul_le_mul_right (2 ^ j) (Nat.lt_succ_iff.1 hnearLow)
  have hpowHigh := Nat.mul_le_mul_right (2 ^ j) hnearHigh
  refine near_of_bounds hlt hc hbelow habove (Nat.two_pow_pos k) ?_ ?_
  -- the bits that the whole number was scaled up by are in every term
  all_goals
    refine Nat.le_of_mul_le_mul_left ?_ (Nat.two_pow_pos (52 - n.log2))
    have hparts : 2 ^ (d + 1) * 2 ^ j * q = 2 ^ (52 - n.log2) * 2 ^ k * q := by rw [hscale]
    generalize 2 ^ (d + 1) = lowest, 2 ^ j = dropped, 2 ^ (52 - n.log2) = scale, 2 ^ k = whole at *
    linarith

end Renderflow.Decimal
