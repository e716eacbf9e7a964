import Mathlib.Data.List.TakeWhile
import Renderflow.Json.Printer
import Renderflow.Json.Reader
import Renderflow.Proofs.Text.Print

/-!
# Numbers and strings read back

A number is read from the start of a text, and what follows it is left if it does not go on with
the number. Whole numbers of 64 bits and strings are read as they were written, and so is a double
whose text is rounded to it.
-/

namespace Renderflow.Json

/-! ## Numbers -/

/-- A text that does not go on with a number. -/
def EndsNumber (rest : List Char) : Prop :=
  ∀ c ∈ rest.head?, c.isDigit = false ∧ c ≠ '.' ∧ isExponentMark c = false

section

variable {cs left rest : List Char} (hrest : EndsNumber rest)

include hrest

theorem digits_append : (cs ++ rest).takeWhile Char.isDigit = cs.takeWhile Char.isDigit ∧
    (cs ++ rest).dropWhile Char.isDigit = cs.dropWhile Char.isDigit ++ rest := by
  induction cs with
  | nil =>
    cases rest with
    | nil => exact ⟨rfl, rfl⟩
    | cons c rest => simp [(hrest c rfl).1]
  | cons c cs ih =>
    cases hc : c.isDigit with
    | true => simp [hc, ih.1, ih.2]
    | false => simp [hc]

theorem exponentDigits?_append {negative : Bool} {e : Int}
    (h : exponentDigits? negative cs = some (e, left)) :
    exponentDigits? negative (cs ++ rest) = some (e, left ++ rest) := by
  obtain ⟨hne, hvalue⟩ := Option.ite_none_left_eq_some.1 h
  obtain ⟨rfl, rfl⟩ := Prod.mk.inj (Option.some.inj hvalue)
  simp only [exponentDigits?, (digits_append hrest).1, (digits_append hrest).2, if_neg hne]

theorem exponentPart?_append {e : Int} (h : exponentPart? cs = some (e, left)) :
    exponentPart? (cs ++ rest) = some (e, left ++ rest) := by
  unfold exponentPart? at h
  split at h
  next => exact exponentDigits?_append hrest h
  next => exact exponentDigits?_append hrest h
  next hminus hplus =>
    cases cs with
    | nil => cases h
    | cons c cs =>
      have hpart := exponentDigits?_append hrest h
      rw [List.cons_append] at hpart ⊢
      unfold exponentPart?
      split
      next heq => exact absurd (by simp_all) (hminus cs)
      next heq => exact absurd (by simp_all) (hplus cs)
      next => exact hpart

theorem scaledNumber?_append {plain : Option Json} {scaled : Int → Option Json} {j : Json}
    (h : scaledNumber? plain scaled cs = some (j, left)) :
    scaledNumber? plain scaled (cs ++ rest) = some (j, left ++ rest) := by
  cases cs with
  | nil =>
    obtain ⟨x, hx, heq⟩ := Option.map_eq_some_iff.1 h
    cases heq
    cases rest with
    | nil => exact h
    | cons c rest => simp [scaledNumber?, (hrest c rfl).2.2, hx]
  | cons c cs =>
    simp only [scaledNumber?, List.cons_append] at h ⊢
    split at h
    next hmark =>
      simp only [Option.bind_eq_bind, Option.bind_eq_some_iff] at h
      obtain ⟨⟨e, more⟩, he, x, hx, heq⟩ := h
      cases heq
      simp [if_pos hmark, exponentPart?_append hrest he, hx]
    next hmark =>
      obtain ⟨x, hx, heq⟩ := Option.map_eq_some_iff.1 h
      cases heq
      simp [if_neg hmark, hx]

theorem unsignedNumber?_append {negative : Bool} {j : Json}
    (h : unsignedNumber? negative cs = some (j, left)) :
    unsignedNumber? negative (cs ++ rest) = some (j, left ++ rest) := by
  simp only [unsignedNumber?, (digits_append hrest).1, (digits_append hrest).2] at h ⊢
  obtain ⟨hwhole, h⟩ := Option.ite_none_left_eq_some.1 h
  rw [if_neg hwhole]
  split at h
  next fraction hfraction =>
    obtain ⟨hne, h⟩ := Option.ite_none_left_eq_some.1 h
    rw [hfraction, List.cons_append]
    simp only [(digits_append hrest).1, (digits_append hrest).2, if_neg hne]
    exact scaledNumber?_append hrest h
  next hpoint =>
    split
    next more heq =>
      cases hdrop : cs.dropWhile Char.isDigit with
      | nil => exact absurd rfl (hrest '.' (by simp_all)).2.1
      | cons c cs => exact absurd hdrop (by simp_all)
    next => exact scaledNumber?_append hrest h

/-- A number does not depend on what follows it. -/
theorem number?_append {j : Json} (h : number? cs = some (j, left)) :
    number? (cs ++ rest) = some (j, left ++ rest) := by
  unfold number? at h
  split at h
  next => exact unsignedNumber?_append hrest h
  next hminus =>
    cases cs with
    | nil => cases h
    | cons c cs =>
      have hnumber := unsignedNumber?_append hrest h
      rw [List.cons_append] at hnumber ⊢
      unfold number?
      split
      next heq => exact absurd (by simp_all) (hminus cs)
      next => exact hnumber

end

theorem unsignedNumber?_toString {negative : Bool} {n : Nat} {j : Json}
    (h : whole? negative (toString n).toList = some j) :
    unsignedNumber? negative (toString n).toList = some (j, []) := by
  have hdigits : ∀ c ∈ (toString n).toList, c.isDigit := fun c => Text.isDigit_of_mem_toString
  have hne : (toString n).toList.isEmpty = false :=
    List.isEmpty_eq_false_iff.2 (mt String.toList_eq_nil_iff.1 (Text.toString_ne_empty n))
  have hzero : (decide ((toString n).toList.length > 1) &&
      (toString n).toList.head? == some '0') = false := by
    cases n with
    | zero => rfl
    | succ n =>
      have hhead := beq_eq_false_iff_ne.2 (Text.head?_toString_ne n.succ_pos)
      exact Bool.and_eq_false_iff.2 (.inr hhead)
  have htake : (toString n).toList.takeWhile Char.isDigit = (toString n).toList :=
    List.takeWhile_eq_self_iff.2 hdigits
  have hdrop : (toString n).toList.dropWhile Char.isDigit = [] :=
    List.dropWhile_eq_nil_iff.2 hdigits
  simp only [unsignedNumber?, htake, hdrop, hne, hzero, scaledNumber?, h]
  rfl

/-- A whole number of 64 bits, with a sign or without one. -/
theorem number?_toString {n : Int} (hlow : Int64.minValue.toInt ≤ n) (hhigh : n < UInt64.size) :
    number? (toString n).toList = some (int n, []) := by
  cases n with
  | ofNat n =>
    have hwhole : whole? false (toString n).toList = some (int n) := by
      have hn : n < UInt64.size := Int.ofNat_lt.1 hhigh
      simp only [whole?, Text.runValue_toString, if_pos hn]
      rfl
    have hnumber := unsignedNumber?_toString hwhole
    show number? (toString n).toList = _
    unfold number?
    split
    next cs heq =>
      exact absurd (Text.isDigit_of_mem_toString (heq ▸ List.mem_cons_self)) (by decide)
    next => exact hnumber
  | negSucc n =>
    have hwhole : whole? true (toString (n + 1)).toList = some (int (Int.negSucc n)) := by
      have hn : Int64.minValue.toInt ≤ Int.negSucc n := hlow
      have hneg : -((n + 1 : Nat) : Int) = Int.negSucc n := rfl
      simp only [whole?, Text.runValue_toString, hneg, if_pos hn]
      rfl
    have htext : (toString (Int.negSucc n)).toList = '-' :: (toString (n + 1)).toList := by
      show ("-" ++ toString (n + 1)).toList = _
      simp
    rw [htext]
    exact unsignedNumber?_toString hwhole

/-- Whether a double is read back from its text. Not every one is, as reading rounds twice. -/
def readsBack (x : Float) : Bool :=
  match number? (number x).toList with
  | some (float y, []) => y = x
  | _ => false

theorem number?_number {x : Float} (h : readsBack x) :
    number? (number x).toList = some (float x, []) := by
  unfold readsBack at h
  split at h
  next y heq => rw [heq, of_decide_eq_true h]
  next => cases h

theorem isFinite_of_readsBack {x : Float} (h : readsBack x) : Decimal.isFinite x := by
  by_contra hx
  have htext : number x = "null" := by
    simp only [number, Decimal.text?, Decimal.Binary.ofFloat?, if_neg hx]
    rfl
  have hnumber := number?_number h
  rw [htext] at hnumber
  cases hnumber

/-! ## Strings -/

theorem hexUnit?_hexChar : ∀ n < 32,
    hexUnit? '0' '0' (hexChar (n / 16)) (hexChar (n % 16)) = some n := by
  decide

/-- An escaped character is read as the character. -/
theorem stringTail?_escape (fuel : Nat) (done cs : List Char) (c : Char) :
    stringTail? (fuel + 1) done (escape c ++ cs) = stringTail? fuel (c :: done) cs := by
  unfold escape
  split
  iterate 7 rfl
  next hquote hback _ _ _ _ _ =>
    split
    next hcontrol =>
      have hunit : escapedUnit? c.toNat cs = some (c, cs) := by
        simp [escapedUnit?, show ¬ 0xDC00 ≤ c.toNat by omega, show ¬ 0xD800 ≤ c.toNat by omega]
      simp [stringTail?, hexUnit?_hexChar c.toNat hcontrol, hunit]
    next hraw =>
      rw [List.singleton_append, stringTail?, if_neg hraw]
      · exact hquote
      · exact fun _ _ _ _ _ heq _ => hback heq
      · exact fun _ _ heq _ => hback heq

theorem stringTail?_flatMap {fuel : Nat} (s : List Char) (done rest : List Char)
    (hfuel : s.length < fuel) :
    stringTail? fuel done (s.flatMap escape ++ '"' :: rest) =
      some (String.ofList (done.reverse ++ s), rest) := by
  induction s generalizing fuel done with
  | nil =>
    obtain ⟨fuel, rfl⟩ := Nat.exists_eq_add_one_of_ne_zero (Nat.ne_zero_of_lt hfuel)
    simp [stringTail?]
  | cons c s ih =>
    obtain ⟨fuel, rfl⟩ := Nat.exists_eq_add_one_of_ne_zero (Nat.ne_zero_of_lt hfuel)
    rw [List.flatMap_cons, List.append_assoc, stringTail?_escape,
      ih (c :: done) (Nat.lt_of_succ_lt_succ hfuel)]
    simp

theorem length_le_flatMap_escape (s : List Char) : s.length ≤ (s.flatMap escape).length := by
  induction s with
  | nil => exact Nat.le_refl 0
  | cons c s ih =>
    have hc : 0 < (escape c).length := by
      unfold escape
      split
      iterate 7 decide
      split <;> simp
    simp only [List.flatMap_cons, List.length_append, List.length_cons]
    omega

/-- A string is read after its opening quote as it was written. -/
theorem string?_escape (s : String) (rest : List Char) :
    string? (s.toList.flatMap escape ++ '"' :: rest) = some (s, rest) := by
  have hlength := length_le_flatMap_escape s.toList
  rw [string?, stringTail?_flatMap s.toList [] rest (by rw [List.length_append]; omega)]
  simp

end Renderflow.Json
