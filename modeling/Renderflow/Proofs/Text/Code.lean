import Mathlib.Data.List.Induction

/-!
# Texts as numbers

The bytes of a text are the digits of a number. Different texts have different numbers, so
an equality of texts is decided by one of numbers. This is what makes it cheap to check a
property of all the templates by evaluation.
-/

namespace Renderflow.Text

/-- The number with the given digits to the base 256, after a leading one. -/
def ofDigits (bytes : List UInt8) : Nat :=
  bytes.foldl (fun n b => 256 * n + b.toNat) 1

/-- The number of a text. -/
def code (s : String) : Nat :=
  ofDigits s.toByteArray.data.toList

theorem ofDigits_concat (bytes : List UInt8) (b : UInt8) :
    ofDigits (bytes ++ [b]) = 256 * ofDigits bytes + b.toNat := by
  simp [ofDigits]

theorem ofDigits_pos (bytes : List UInt8) : 0 < ofDigits bytes := by
  induction bytes using List.reverseRecOn with
  | nil => simp [ofDigits]
  | append_singleton bytes b ih =>
    rw [ofDigits_concat]
    omega

/-- The leading one keeps a digit sequence apart from its beginnings. -/
theorem ofDigits_injective {l m : List UInt8} (h : ofDigits l = ofDigits m) : l = m := by
  induction l using List.reverseRecOn generalizing m with
  | nil =>
    cases m using List.reverseRecOn with
    | nil => rfl
    | append_singleton m b =>
      have hm := ofDigits_pos m
      rw [ofDigits_concat] at h
      simp only [ofDigits, List.foldl_nil] at h hm
      omega
  | append_singleton l a ih =>
    have hl := ofDigits_pos l
    have ha := a.toNat_lt
    cases m using List.reverseRecOn with
    | nil =>
      rw [ofDigits_concat] at h
      simp only [ofDigits, List.foldl_nil] at h hl
      omega
    | append_singleton m b =>
      have hb := b.toNat_lt
      rw [ofDigits_concat, ofDigits_concat] at h
      have hab : a = b := UInt8.toNat_inj.1 (by omega)
      have hlm : l = m := ih (by omega)
      rw [hab, hlm]

theorem code_inj {s t : String} : code s = code t ↔ s = t := by
  constructor
  · intro h
    have hl : s.toByteArray.data = t.toByteArray.data := Array.ext' (ofDigits_injective h)
    exact String.toByteArray_inj.1 (ByteArray.ext hl)
  · intro h
    rw [h]

/-- An equality of texts as one of numbers. -/
@[reducible]
def decideEq (s t : String) : Decidable (s = t) :=
  decidable_of_iff (code s = code t) code_inj

end Renderflow.Text
