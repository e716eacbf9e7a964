import Renderflow.Proofs.Decimal.Product

/-!
# Hundredths

A whole number of hundredths is no double, but what it leaves of one is a double that is off by
little enough for a product with a whole number to be rounded to a nearest whole number.
-/

namespace Renderflow.Decimal

def hundredths (k : Nat) : Float :=
  Float.ofNat k / 100.0

theorem clamp_hundredths : ∀ k ≤ 100, clamp 0.0 1.0 (hundredths k) = hundredths k := by
  decide +kernel

/-- Checks that a number is normal, at most one, and `c` hundredths but for its last place. -/
def Binary.isHundredths (c : Nat) (b : Binary) : Bool :=
  !b.negative && 2 ^ 52 ≤ b.mantissa && -900 ≤ b.exponent && b.exponent ≤ -52 &&
    2 ^ 52 * (c * 2 ^ (-b.exponent).toNat) ≤
      2 ^ 52 * (100 * b.mantissa) + 100 * 2 ^ (-b.exponent).toNat &&
    2 ^ 52 * (100 * b.mantissa) ≤
      2 ^ 52 * (c * 2 ^ (-b.exponent).toNat) + 100 * 2 ^ (-b.exponent).toNat

theorem isHundredths_rest :
    ∀ k < 100, (Binary.ofFloat? (1.0 - hundredths k)).any (Binary.isHundredths (100 - k)) := by
  decide +kernel

/-- What hundredths leave of a whole is hundredths again. -/
theorem exists_normal_rest {k : Nat} (hk : k < 100) :
    ∃ m j : Nat, Normal (1.0 - hundredths k) m (-(j : Int)) ∧ 52 ≤ j ∧ j ≤ 900 ∧
      2 ^ 52 * ((100 - k) * 2 ^ j) ≤ 2 ^ 52 * (100 * m) + 100 * 2 ^ j ∧
      2 ^ 52 * (100 * m) ≤ 2 ^ 52 * ((100 - k) * 2 ^ j) + 100 * 2 ^ j := by
  obtain ⟨⟨negative, m, e⟩, hvalue, hcheck⟩ := (Option.any_eq_true _ _).1 (isHundredths_rest k hk)
  simp only [Binary.isHundredths, Bool.and_eq_true, Bool.not_eq_true', decide_eq_true_eq] at hcheck
  obtain ⟨⟨⟨⟨⟨rfl, hm⟩, hlow⟩, hhigh⟩, hbelow⟩, habove⟩ := hcheck
  obtain ⟨j, rfl⟩ : ∃ j : Nat, e = -(j : Int) := ⟨(-e).toNat, by omega⟩
  have hj : (- -(j : Int)).toNat = j := by omega
  rw [hj] at hbelow habove
  exact ⟨m, j, ⟨hvalue, hm⟩, by omega, by omega, hbelow, habove⟩

/-- The hundredths that a strength in percent leaves are counted without a rounding error. -/
theorem round_rest {k : Nat} (hk : k ≤ 100) :
    round ((1.0 - hundredths k) * 100.0) = Float.ofNat (100 - k) := by
  rcases Nat.eq_or_lt_of_le hk with rfl | hlt
  · decide +kernel
  · have hwhole : (100.0 : Float) = Float.ofNat 100 := by decide +kernel
    obtain ⟨m, j, hnormal, hlow, hhigh, hbelow, habove⟩ := exists_normal_rest hlt
    obtain ⟨q, hround, hunder, hover⟩ := exists_round_mul (n := 100) (by norm_num)
      (by norm_num) (Nat.sub_le 100 k) hnormal hlow hhigh hbelow habove
    obtain rfl : q = 100 - k := by omega
    rw [hwhole, hnormal.mul_comm (normal_ofNat (by norm_num) (by norm_num)), hround]

end Renderflow.Decimal
