import Renderflow.Image.Spec
import Renderflow.Proofs.Text.Blank

/-!
# Reading back what was printed

A text in lower case and a trimmed one stay as they are when they are lowered and trimmed again. A
number in print is read back as the number, and so is a size.
-/

namespace Renderflow

namespace Text

/-! ## Lower case -/

theorem toNat_toLower (c : Char) :
    c.toLower.toNat = if 65 ≤ c.toNat ∧ c.toNat ≤ 90 then c.toNat + 32 else c.toNat := by
  unfold Char.toLower
  split
  next h =>
    have hlow : 65 ≤ c.toNat := h.1
    have hhigh : c.toNat ≤ 90 := h.2
    have hsum : (c.toNat + 32) % 2 ^ 32 = c.toNat + 32 := by omega
    rw [if_pos ⟨hlow, hhigh⟩, ← hsum]
    rfl
  next h =>
    have hout : ¬ (65 ≤ c.toNat ∧ c.toNat ≤ 90) := h
    rw [if_neg hout]

theorem toLower_toLower (c : Char) : c.toLower.toLower = c.toLower := by
  apply Char.toNat_inj.1
  rw [toNat_toLower c.toLower, toNat_toLower c]
  split_ifs <;> omega

/-- A character that is no letter is the lower case of itself alone. -/
theorem eq_of_toLower_eq {c d : Char} (h : c.toLower = d) (hd : d.toNat < 97) : c = d := by
  have hcode := congrArg Char.toNat h
  rw [toNat_toLower] at hcode
  apply Char.toNat_inj.1
  split at hcode <;> omega

theorem lower_lower (s : String) : lower (lower s) = lower s := by
  simp only [lower, String.toList_ofList, List.map_map]
  exact congrArg String.ofList (List.map_congr_left fun c _ => toLower_toLower c)

/-- No letter is white space, in either case. -/
theorem isBlank_toLower (c : Char) : isBlank c.toLower = isBlank c := by
  unfold isBlank
  rw [toNat_toLower]
  split
  next h =>
    rw [Bool.eq_iff_iff]
    simp only [Bool.or_eq_true, Bool.and_eq_true, decide_eq_true_eq, beq_iff_eq]
    omega
  next => rfl

theorem trim_lower (s : String) : trim (lower s) = lower (trim s) := by
  have hblank : isBlank ∘ Char.toLower = isBlank := funext isBlank_toLower
  simp only [trim, lower, trimStart, trimEnd, String.toList_ofList, List.dropWhile_map, hblank,
    ← List.map_reverse]

theorem lower_eq_self {s : String} (h : ∀ c ∈ s.toList, c.toLower = c) : lower s = s := by
  rw [lower, List.map_congr_left h, List.map_id', String.ofList_toList]

theorem toLower_of_isDigit {c : Char} (h : c.isDigit) : c.toLower = c := by
  simp only [Char.isDigit, Bool.and_eq_true, decide_eq_true_eq] at h
  have hhigh : c.toNat ≤ 57 := h.2
  apply Char.toNat_inj.1
  rw [toNat_toLower, if_neg (by omega)]

theorem isTrimmed_lower {s : String} (h : IsTrimmed s) : IsTrimmed (lower s) where
  first c hc := by
    obtain ⟨d, hd, rfl⟩ : ∃ d, s.toList.head? = some d ∧ d.toLower = c := by
      simpa [lower] using hc
    rw [isBlank_toLower, h.first d hd]
  last c hc := by
    obtain ⟨d, hd, rfl⟩ : ∃ d, s.toList.getLast? = some d ∧ d.toLower = c := by
      simpa [lower] using hc
    rw [isBlank_toLower, h.last d hd]

/-- A text without white space at its ends has none in lower case. -/
theorem nonBlank?_lower {s : String} (h : nonBlank? s = some s) :
    nonBlank? (lower s) = some (lower s) := by
  obtain ⟨htrim, hne⟩ := nonBlank?_eq_some_iff.1 h
  refine nonBlank?_eq_some_iff.2 ⟨trim_eq_self (isTrimmed_lower (htrim ▸ isTrimmed_trim s)), ?_⟩
  simpa [lower] using hne

/-! ## Numbers -/

theorem cutFirst?_eq_some {c : Char} {s before after : String}
    (hs : s.toList = before.toList ++ c :: after.toList) (h : c ∉ before.toList) :
    cutFirst? c s = some (before, after) := by
  have hbefore : ∀ d ∈ before.toList, d ≠ c := fun d hd heq => h (heq ▸ hd)
  have htake : s.toList.takeWhile (· != c) = before.toList := by
    rw [hs, List.takeWhile_append_of_pos (by simpa using hbefore)]
    simp
  have hdrop : s.toList.dropWhile (· != c) = c :: after.toList := by
    rw [hs, List.dropWhile_append_of_pos (by simpa using hbefore)]
    simp
  simp [cutFirst?, htake, hdrop]

theorem cutFirst?_eq_some_iff {c : Char} {s before after : String} :
    cutFirst? c s = some (before, after) ↔
      s.toList = before.toList ++ c :: after.toList ∧ c ∉ before.toList := by
  refine ⟨fun h => ?_, fun h => cutFirst?_eq_some h.1 h.2⟩
  have hall := List.takeWhile_append_dropWhile (p := (· != c)) (l := s.toList)
  have hnot : c ∉ s.toList.takeWhile (· != c) := fun hmem => by
    simpa using List.mem_takeWhile_imp hmem
  rw [cutFirst?] at h
  split at h
  · cases h
  · next d rest hdrop =>
    obtain rfl : d = c := by
      have hhead := List.head?_dropWhile_not (· != c) s.toList
      simpa [hdrop] using hhead
    cases h
    rw [hdrop] at hall
    simpa using ⟨hall.symm, hnot⟩

theorem isDigit_of_mem_toString {n : Nat} {c : Char} (h : c ∈ (toString n).toList) :
    c.isDigit := by
  rw [Nat.toString_eq_repr, Nat.toList_repr] at h
  exact Nat.isDigit_of_mem_toDigits (by decide) (by decide) h

theorem toString_ne_empty (n : Nat) : toString n ≠ "" := by
  rw [← String.toList_inj.ne, Nat.toString_eq_repr, Nat.toList_repr]
  exact Nat.toDigits_ne_nil

theorem runValue_toString (n : Nat) : runValue (toString n).toList = n := by
  rw [Nat.toString_eq_repr, Nat.toList_repr]
  exact Nat.ofDigitChars_toDigits (by decide) (by decide)

/-- A positive number is printed without a zero in front. -/
theorem head?_toString_ne {n : Nat} (hn : 0 < n) : (toString n).toList.head? ≠ some '0' := by
  rw [Nat.toString_eq_repr, Nat.toList_repr]
  induction n using Nat.strongRecOn with
  | ind n ih =>
    rw [Nat.toDigits_eq_if (by decide)]
    split
    next hsmall =>
      have hdigit : ∀ d < 10, 0 < d → Nat.digitChar d ≠ '0' := by decide
      simpa using hdigit n hsmall hn
    next hlarge =>
      rw [List.head?_append_of_ne_nil _ Nat.toDigits_ne_nil]
      exact ih (n / 10) (Nat.div_lt_self hn (by decide)) (by omega)

theorem digits?_toString (n : Nat) : digits? (toString n).toList = some n := by
  have hdigits : (toString n).toList.all Char.isDigit :=
    List.all_eq_true.2 fun c hc => isDigit_of_mem_toString hc
  have hne : (toString n).toList.isEmpty = false := by
    rw [List.isEmpty_eq_false_iff, ne_eq, String.toList_eq_nil_iff]
    exact toString_ne_empty n
  rw [digits?, hne, hdigits, runValue_toString]
  rfl

theorem natural?_toString {limit n : Nat} (h : n ≤ limit) :
    natural? limit (toString n) = some n := by
  have hsign : ∀ rest, (toString n).toList ≠ '+' :: rest := by
    intro rest heq
    exact absurd (isDigit_of_mem_toString (by rw [heq]; exact List.mem_cons_self)) (by decide)
  unfold natural?
  split
  next rest heq => exact absurd heq (hsign rest)
  next =>
    rw [digits?_toString]
    simp [h]

theorem uint32?_toString (n : UInt32) : uint32? (toString n.toNat) = some n := by
  have hn : n.toNat ≤ UInt32.size - 1 := Nat.le_sub_one_of_lt n.toNat_lt_size
  rw [uint32?, natural?_toString hn, Option.map_some, UInt32.ofNat_toNat]

theorem isTrimmed_toString (n : Nat) : IsTrimmed (toString n) := by
  have hblank : ∀ c ∈ (toString n).toList, isBlank c = false := fun c hc =>
    not_isBlank_of_isDecimal (isDecimal_of_isDigit (isDigit_of_mem_toString hc))
  exact ⟨fun c hc => hblank c (List.mem_of_mem_head? hc),
    fun c hc => hblank c (List.mem_of_getLast? hc)⟩

theorem lower_toString (n : Nat) : lower (toString n) = toString n :=
  lower_eq_self fun _ hc => toLower_of_isDigit (isDigit_of_mem_toString hc)

end Text

namespace Image

/-- A size in print is trimmed. -/
theorem nonBlank?_print (width height : Nat) :
    Text.nonBlank? (toString width ++ "x" ++ toString height) =
      some (toString width ++ "x" ++ toString height) := by
  have htrimmed := (Text.isTrimmed_toString width).append (Text.toString_ne_empty width) "x"
    (Text.isTrimmed_toString height) (Text.toString_ne_empty height)
  refine Text.nonBlank?_eq_some_iff.2 ⟨Text.trim_eq_self htrimmed, fun hempty => ?_⟩
  simpa using congrArg String.toList hempty

/-- A size in print is read back as the size. -/
theorem sides?_print (width height : UInt32) :
    sides? (toString width.toNat ++ "x" ++ toString height.toNat) = some (width, height) := by
  obtain ⟨htrim, -⟩ := Text.nonBlank?_eq_some_iff.1 (nonBlank?_print width.toNat height.toNat)
  have hlower : Text.lower (toString width.toNat ++ "x" ++ toString height.toNat) =
      toString width.toNat ++ "x" ++ toString height.toNat := by
    have happend : ∀ s t : String, Text.lower (s ++ t) = Text.lower s ++ Text.lower t := by
      simp [Text.lower]
    rw [happend, happend, Text.lower_toString, Text.lower_toString]
    rfl
  have hx : 'x' ∉ (toString width.toNat).toList := fun hmem =>
    absurd (Text.isDigit_of_mem_toString hmem) (by decide)
  have hcut : Text.cutFirst? 'x' (toString width.toNat ++ "x" ++ toString height.toNat) =
      some (toString width.toNat, toString height.toNat) := Text.cutFirst?_eq_some (by simp) hx
  rw [sides?, htrim, hlower, hcut]
  simp only [Option.bind_eq_bind, Option.bind_some, Text.trim_eq_self (Text.isTrimmed_toString _),
    Text.uint32?_toString, Option.pure_def]

end Image

end Renderflow
