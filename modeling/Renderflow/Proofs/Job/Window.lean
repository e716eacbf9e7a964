import Renderflow.Job.Context

/-!
# The window of two stages

The first of two stages starts at the step that a partial denoise leaves, and it hands over to the
second one in the second half of the steps. The step is rounded from a product of doubles, and a
product with zero counts as zero whatever the other factor is.
-/

namespace Renderflow

namespace Decimal
open Float.Model Float.Model.UnpackedFloat

theorem unpacked_mul_zero (x : UnpackedFloat) :
    UnpackedFloat.mul Format.binary64 x (.zero .positive) = .notANumber ∨
      ∃ sign, UnpackedFloat.mul Format.binary64 x (.zero .positive) = .zero sign := by
  cases x with
  | infinity sign => exact .inl rfl
  | notANumber => exact .inl rfl
  | zero sign => exact .inr ⟨_, rfl⟩
  | finite sign m e hm => exact .inr ⟨_, rfl⟩

/-- A double times zero is a zero, but for infinities and NaN. -/
theorem mul_zero_cases (x : Float) : x * 0.0 = 0.0 ∨ x * 0.0 = -0.0 ∨ x * 0.0 = notANumber := by
  have hmul : x * 0.0 = .ofModel (.pack (UnpackedFloat.mul Format.binary64 x.toModel.unpack
      (.zero .positive))) := rfl
  rcases unpacked_mul_zero x.toModel.unpack with hnan | ⟨sign, hzero⟩
  · rw [hmul, hnan]
    exact .inr (.inr (by decide))
  · rw [hmul, hzero]
    cases sign with
    | positive => exact .inl (by decide)
    | negative => exact .inr (.inl (by decide))

end Decimal

namespace Sampling

/-- A window whose first stage starts, and then hands over, within the steps and not before half of
them. -/
structure Fits (steps : UInt32) (window : UInt32 × UInt32) : Prop where
  ordered : window.1 ≤ window.2
  within : window.2 ≤ steps
  half : steps / 2 ≤ window.2

theorem fits_window (steps : UInt32) (denoise : Float) :
    Fits steps (window steps denoise) := by
  have hmin (a b : UInt32) : min a b ≤ b := Std.min_le_right
  have hmax (a b : UInt32) : max a b = if a ≤ b then b else a := rfl
  have hhalf : steps / 2 ≤ steps := by
    rw [UInt32.le_iff_toNat_le, UInt32.toNat_div]
    exact Nat.div_le_self _ _
  unfold window
  simp only
  -- The window fits whatever number the product of doubles is rounded to.
  generalize hstart : min (Decimal.round _).toUInt32 steps = start
  have hbound : start ≤ steps := hstart ▸ hmin _ _
  simp only [UInt32.le_iff_toNat_le] at hbound hhalf
  constructor
  all_goals
    simp only [hmax, UInt32.le_iff_toNat_le]
    split <;> omega

/-- A whole denoise skips no step. -/
theorem window_whole (steps : UInt32) : (window steps 1.0).1 = 0 := by
  have hpart : (1.0 - Decimal.clamp 0.0 1.0 1.0 : Float) = 0.0 := by decide
  have hskipped : (Decimal.round (Float.ofNat steps.toNat * 0.0)).toUInt32 = 0 := by
    rcases Decimal.mul_zero_cases (Float.ofNat steps.toNat) with h | h | h
    all_goals
      rw [h]
      decide
  simp only [window, hpart, hskipped]
  exact if_pos (UInt32.zero_le)

end Sampling

end Renderflow
