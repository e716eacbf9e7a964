import Mathlib.Data.Nat.GCD.Basic
import Mathlib.Tactic.Ring
import Renderflow.Job.Context
import Renderflow.Proofs.Text.Print

/-!
# Proportions in lowest terms

Euclid's algorithm ends for every two sides and never divides by zero. What it leaves of a size with
an area is the one pair without a common divisor that has the same proportions, so the text of a
ratio tells the proportions of a size and nothing else about it.
-/

namespace Renderflow.AspectRatio

/-- A run of Euclid's algorithm and what it ends with. No step divides by zero. -/
inductive Euclid : UInt32 → UInt32 → UInt32 → Prop
  | done (a : UInt32) : Euclid a 0 a
  | divide {a b d : UInt32} (hb : b ≠ 0) (h : Euclid b (a % b) d) : Euclid a b d

/-- A ratio in lowest terms. -/
structure IsReduced (a b : UInt32) : Prop where
  width : a ≠ 0
  height : b ≠ 0
  coprime : a.toNat.Coprime b.toNat

/-- A width is to its height as another width is to its height. -/
def SameProportions (a b width height : UInt32) : Prop :=
  a.toNat * height.toNat = b.toNat * width.toNat

variable {a b d a' b' width height width' height' : UInt32} {ratio ratio' : String}

theorem toNat_pos (h : a ≠ 0) : 0 < a.toNat :=
  Nat.pos_of_ne_zero fun hzero => h (UInt32.toNat_inj.1 hzero)

/-! ## The divisor -/

theorem euclid_commonDivisor (a b : UInt32) : Euclid a b (commonDivisor a b) := by
  fun_induction commonDivisor a b with
  | case1 a => exact .done a
  | case2 a b hb ih => exact .divide hb ih

/-- A run ends with the greatest common divisor. -/
theorem Euclid.toNat_eq (h : Euclid a b d) : d.toNat = a.toNat.gcd b.toNat := by
  induction h with
  | done a => simp
  | divide _ _ ih => rw [ih, UInt32.toNat_mod, Nat.gcd_comm, ← Nat.gcd_rec, Nat.gcd_comm]

theorem Euclid.ne_zero (h : Euclid width height d) (hwidth : width ≠ 0) : d ≠ 0 := by
  rw [← UInt32.toNat_inj.ne, h.toNat_eq]
  exact (Nat.gcd_pos_of_pos_left _ (toNat_pos hwidth)).ne'

/-- Both sides are multiples of the divisor, by factors without a common divisor. -/
theorem Euclid.factors (h : Euclid width height d) (hwidth : width ≠ 0) :
    width.toNat = (width / d).toNat * d.toNat ∧ height.toNat = (height / d).toNat * d.toNat ∧
      (width / d).toNat.Coprime (height / d).toNat := by
  have hpos := Nat.gcd_pos_of_pos_left height.toNat (toNat_pos hwidth)
  simp only [UInt32.toNat_div, h.toNat_eq]
  exact ⟨(Nat.div_mul_cancel (Nat.gcd_dvd_left _ _)).symm,
    (Nat.div_mul_cancel (Nat.gcd_dvd_right _ _)).symm, Nat.coprime_div_gcd_div_gcd hpos⟩

theorem Euclid.isReduced (h : Euclid width height d) (hwidth : width ≠ 0) (hheight : height ≠ 0) :
    IsReduced (width / d) (height / d) := by
  obtain ⟨hleft, hright, hcoprime⟩ := h.factors hwidth
  refine ⟨fun hzero => ?_, fun hzero => ?_, hcoprime⟩
  · rw [hzero] at hleft
    exact (toNat_pos hwidth).ne' (by simpa using hleft)
  · rw [hzero] at hright
    exact (toNat_pos hheight).ne' (by simpa using hright)

theorem Euclid.sameProportions (h : Euclid width height d) (hwidth : width ≠ 0) :
    SameProportions (width / d) (height / d) width height := by
  obtain ⟨hleft, hright, -⟩ := h.factors hwidth
  unfold SameProportions
  calc (width / d).toNat * height.toNat
      = (width / d).toNat * ((height / d).toNat * d.toNat) := by rw [← hright]
    _ = (height / d).toNat * ((width / d).toNat * d.toNat) := Nat.mul_left_comm _ _ _
    _ = (height / d).toNat * width.toNat := by rw [← hleft]

/-! ## Proportions -/

theorem SameProportions.symm (h : SameProportions a b width height) :
    SameProportions width height a b := by
  unfold SameProportions at h ⊢
  rw [Nat.mul_comm, ← h, Nat.mul_comm]

theorem SameProportions.trans (h : SameProportions a b width height) (hwidth : width ≠ 0)
    (h' : SameProportions width height a' b') : SameProportions a b a' b' := by
  unfold SameProportions at h h' ⊢
  apply Nat.eq_of_mul_eq_mul_right (toNat_pos hwidth)
  calc a.toNat * b'.toNat * width.toNat
      = a.toNat * (width.toNat * b'.toNat) := by ring
    _ = (a.toNat * height.toNat) * a'.toNat := by rw [h', Nat.mul_assoc]
    _ = b.toNat * a'.toNat * width.toNat := by rw [h]; ring

/-- There is one ratio in lowest terms for all sizes of the same proportions. -/
theorem IsReduced.unique (h : IsReduced a b) (h' : IsReduced a' b')
    (hsame : SameProportions a b a' b') : a = a' ∧ b = b' := by
  unfold SameProportions at hsame
  have hdvd : a.toNat ∣ a'.toNat :=
    h.coprime.dvd_of_dvd_mul_left (hsame ▸ Nat.dvd_mul_right _ _)
  have hdvd' : a'.toNat ∣ a.toNat :=
    h'.coprime.dvd_of_dvd_mul_right (hsame ▸ Nat.dvd_mul_left _ _)
  have hwidth := Nat.dvd_antisymm hdvd hdvd'
  rw [← hwidth, Nat.mul_comm] at hsame
  have hheight := Nat.eq_of_mul_eq_mul_right (toNat_pos h.width) hsame
  exact ⟨UInt32.toNat_inj.1 hwidth, UInt32.toNat_inj.1 hheight.symm⟩

/-! ## The text -/

theorem cutFirst?_print (a b : UInt32) :
    Text.cutFirst? ':' (print a b) = some (toString a.toNat, toString b.toNat) := by
  have hcolon : ':' ∉ (toString a.toNat).toList := fun hmem =>
    absurd (Text.isDigit_of_mem_toString hmem) (by decide)
  exact Text.cutFirst?_eq_some (by simp [print]) hcolon

theorem print_inj : print a b = print a' b' ↔ a = a' ∧ b = b' := by
  have hside {n m : UInt32} (h : toString n.toNat = toString m.toNat) : n = m := by
    rw [← UInt32.toNat_inj, ← Text.runValue_toString n.toNat, h, Text.runValue_toString]
  constructor
  · intro h
    have hcut := cutFirst?_print a b
    rw [h, cutFirst?_print] at hcut
    obtain ⟨hwidth, hheight⟩ := Prod.mk.inj (Option.some.inj hcut)
    exact ⟨hside hwidth.symm, hside hheight.symm⟩
  · rintro ⟨rfl, rfl⟩
    rfl

theorem pos_and_pos_iff : 0 < width ∧ 0 < height ↔ width ≠ 0 ∧ height ≠ 0 := by
  simp only [UInt32.lt_iff_toNat_lt, ← UInt32.toNat_inj.ne]
  exact and_congr Nat.pos_iff_ne_zero Nat.pos_iff_ne_zero

theorem ofSize?_eq_some_iff : ofSize? width height = some ratio ↔
    (width ≠ 0 ∧ height ≠ 0) ∧
      print (width / commonDivisor width height) (height / commonDivisor width height) = ratio := by
  simp [ofSize?, pos_and_pos_iff, and_assoc]

theorem ofSize?_eq_none_iff : ofSize? width height = none ↔ width = 0 ∨ height = 0 := by
  simp [ofSize?, pos_and_pos_iff, or_iff_not_imp_left]

/-- The text of a size is that of the ratio in lowest terms with its proportions. -/
theorem ofSize?_eq_print_iff (hwidth : width ≠ 0) (hheight : height ≠ 0) :
    ofSize? width height = some (print a b) ↔
      IsReduced a b ∧ SameProportions a b width height := by
  have hrun := euclid_commonDivisor width height
  have hreduced := hrun.isReduced hwidth hheight
  have hsame := hrun.sameProportions hwidth
  rw [ofSize?_eq_some_iff, and_iff_right ⟨hwidth, hheight⟩, print_inj]
  constructor
  · rintro ⟨rfl, rfl⟩
    exact ⟨hreduced, hsame⟩
  · rintro ⟨hab, hab'⟩
    exact hreduced.unique hab (hsame.trans hwidth hab'.symm)

theorem ofSize?_of_isReduced (h : IsReduced a b) : ofSize? a b = some (print a b) :=
  (ofSize?_eq_print_iff h.width h.height).2 ⟨h, Nat.mul_comm _ _⟩

theorem exists_print_of_ofSize? (h : ofSize? width height = some ratio) :
    width ≠ 0 ∧ height ≠ 0 ∧ ∃ a b, ratio = print a b ∧ IsReduced a b ∧
      SameProportions a b width height := by
  obtain ⟨⟨hwidth, hheight⟩, hprint⟩ := ofSize?_eq_some_iff.1 h
  subst hprint
  exact ⟨hwidth, hheight, _, _, rfl, (ofSize?_eq_print_iff hwidth hheight).1 h⟩

/-- Sizes have one text if they have the same proportions. -/
theorem ratio_eq_iff (h : ofSize? width height = some ratio)
    (h' : ofSize? width' height' = some ratio') :
    ratio = ratio' ↔ SameProportions width height width' height' := by
  obtain ⟨hwidth, hheight, a, b, rfl, hreduced, hsame⟩ := exists_print_of_ofSize? h
  obtain ⟨hwidth', hheight', a', b', rfl, hreduced', hsame'⟩ := exists_print_of_ofSize? h'
  rw [print_inj]
  constructor
  · rintro ⟨rfl, rfl⟩
    exact hsame.symm.trans hreduced.width hsame'
  · intro hsizes
    exact hreduced.unique hreduced' ((hsame.trans hwidth hsizes).trans hwidth' hsame'.symm)

/-- Euclid's algorithm ends with a divisor that is not zero, unless both sides are. A size has no
text if it has no area, and otherwise the text of a ratio in lowest terms with the proportions of
the size and with itself as its text. Two sizes have one text if they have the same proportions. -/
theorem ofSize?_reduces (width height : UInt32) :
    Euclid width height (commonDivisor width height) ∧
      (ofSize? width height = none ↔ width = 0 ∨ height = 0) ∧
      (∀ ratio, ofSize? width height = some ratio →
        commonDivisor width height ≠ 0 ∧
          ∃ a b, a = width / commonDivisor width height ∧
            b = height / commonDivisor width height ∧ ratio = print a b ∧ IsReduced a b ∧
            SameProportions a b width height ∧ ofSize? a b = some ratio) ∧
      (∀ width' height' ratio ratio', ofSize? width height = some ratio →
        ofSize? width' height' = some ratio' →
          (ratio = ratio' ↔ SameProportions width height width' height')) ∧
      (IsReduced width height → ofSize? width height = some (print width height)) := by
  have hrun := euclid_commonDivisor width height
  refine ⟨hrun, ofSize?_eq_none_iff, fun ratio h => ?_, fun _ _ _ _ => ratio_eq_iff,
    ofSize?_of_isReduced⟩
  obtain ⟨⟨hwidth, hheight⟩, rfl⟩ := ofSize?_eq_some_iff.1 h
  have hreduced := hrun.isReduced hwidth hheight
  exact ⟨hrun.ne_zero hwidth, _, _, rfl, rfl, rfl, hreduced, hrun.sameProportions hwidth,
    ofSize?_of_isReduced hreduced⟩

theorem ofSize?_reduces_widescreen :
    ofSize? 1920 1080 = some "16:9" ∧ ofSize? 640 360 = some "16:9" ∧
      commonDivisor 1920 1080 ≠ 0 ∧ SameProportions 1920 1080 640 360 ∧
      IsReduced 16 9 ∧ ofSize? 16 9 = some "16:9" ∧
      ofSize? 0 1080 = none := by
  have hlarge : ofSize? 1920 1080 = some "16:9" := by decide +kernel
  have hsmall : ofSize? 640 360 = some "16:9" := by decide +kernel
  have hreduced : IsReduced 16 9 := ⟨by decide, by decide, by decide⟩
  obtain ⟨-, -, hratio, htext, -⟩ := ofSize?_reduces 1920 1080
  exact ⟨hlarge, hsmall, (hratio _ hlarge).1, (htext _ _ _ _ hlarge hsmall).1 rfl, hreduced,
    (ofSize?_reduces 16 9).2.2.2.2 hreduced, (ofSize?_reduces 0 1080).2.1.2 (.inl rfl)⟩

end Renderflow.AspectRatio
