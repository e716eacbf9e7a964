import Renderflow.Proofs.Text.Print

/-!
# Numerals

A run of ASCII digits is read as the number that it is the print of, but for zeros in front and a
plus sign before them.
-/

namespace Renderflow.Text

/-- A text is the print of a number, with any zeros in front. -/
def Writes (cs : List Char) (n : Nat) : Prop :=
  ∃ zeros, cs = List.replicate zeros '0' ++ (toString n).toList

variable {cs : List Char} {n : Nat}

theorem toNat_of_isDigit {c : Char} (h : c.isDigit) : 48 ≤ c.toNat ∧ c.toNat ≤ 57 := by
  simp only [Char.isDigit, Bool.and_eq_true, decide_eq_true_eq] at h
  exact ⟨h.1, h.2⟩

theorem sub_lt_ten {c : Char} (h : c.isDigit) : c.toNat - 48 < 10 := by
  have hcode := toNat_of_isDigit h
  omega

theorem digitChar_of_isDigit {c : Char} (h : c.isDigit) : Nat.digitChar (c.toNat - 48) = c := by
  have hcode := toNat_of_isDigit h
  apply Char.toNat_inj.1
  rw [Nat.toNat_digitChar_of_lt_ten (sub_lt_ten h)]
  omega

theorem toList_toString_digit {c : Char} (h : c.isDigit) :
    (toString (c.toNat - 48)).toList = [c] := by
  rw [Nat.toString_eq_repr, Nat.toList_repr, Nat.toDigits_of_lt_base (sub_lt_ten h),
    digitChar_of_isDigit h]

theorem runValue_concat (cs : List Char) (c : Char) :
    runValue (cs ++ [c]) = 10 * runValue cs + (c.toNat - 48) := by
  simp [runValue]

/-- A number with a digit after it. -/
theorem toString_concat {c : Char} (hn : 0 < n) (hc : c.isDigit) :
    (toString (10 * n + (c.toNat - 48))).toList = (toString n).toList ++ [c] := by
  rw [← toList_toString_digit hc]
  simp only [Nat.toString_eq_repr, Nat.toList_repr]
  exact (Nat.toDigits_append_toDigits (by decide) hn (sub_lt_ten hc)).symm

theorem writes_runValue (hne : cs ≠ []) (h : ∀ c ∈ cs, c.isDigit) : Writes cs (runValue cs) := by
  induction cs using List.reverseRecOn with
  | nil => exact absurd rfl hne
  | append_singleton cs c ih =>
    have hc : c.isDigit := h c (by simp)
    rw [runValue_concat]
    by_cases hcs : cs = []
    · subst hcs
      exact ⟨0, by simpa [runValue] using (toList_toString_digit hc).symm⟩
    · obtain ⟨zeros, hzeros⟩ := ih hcs fun d hd => h d (List.mem_append_left _ hd)
      rcases Nat.eq_zero_or_pos (runValue cs) with hzero | hpos
      · -- The digits before the last one are zeros, and the number is the last one.
        refine ⟨zeros + 1, ?_⟩
        rw [hzero] at hzeros ⊢
        rw [Nat.mul_zero, Nat.zero_add, toList_toString_digit hc, List.replicate_succ', hzeros]
        rfl
      · refine ⟨zeros, ?_⟩
        rw [toString_concat hpos hc, ← List.append_assoc, ← hzeros]

theorem Writes.isDigit (h : Writes cs n) : ∀ c ∈ cs, c.isDigit := by
  obtain ⟨zeros, rfl⟩ := h
  intro c hc
  rcases List.mem_append.1 hc with hc | hc
  · rw [List.eq_of_mem_replicate hc]
    rfl
  · exact isDigit_of_mem_toString hc

theorem Writes.ne_nil (h : Writes cs n) : cs ≠ [] := by
  obtain ⟨zeros, rfl⟩ := h
  intro hnil
  exact toString_ne_empty n (String.toList_eq_nil_iff.1 (List.append_eq_nil_iff.1 hnil).2)

theorem Writes.runValue (h : Writes cs n) : runValue cs = n := by
  obtain ⟨zeros, rfl⟩ := h
  induction zeros with
  | zero => exact runValue_toString n
  | succ zeros ih => exact ih

/-- A run of digits is read as a number if it writes it. -/
theorem digits?_eq_some_iff : digits? cs = some n ↔ Writes cs n := by
  unfold digits?
  constructor
  · intro h
    split at h
    · cases h
    · next hcs =>
      obtain ⟨hne, hall⟩ : cs ≠ [] ∧ ∀ c ∈ cs, c.isDigit := by simpa using hcs
      obtain rfl := Option.some.inj h
      exact writes_runValue hne hall
  · intro h
    have hcs : ¬ (cs.isEmpty || !cs.all Char.isDigit) := by
      simpa using ⟨h.ne_nil, h.isDigit⟩
    rw [if_neg hcs, h.runValue]

/-! ## Numbers with a sign -/

/-- A text writes a number, with or without a plus sign in front. -/
def WritesSigned (cs : List Char) (n : Nat) : Prop :=
  ∃ digits, (cs = digits ∨ cs = '+' :: digits) ∧ Writes digits n

theorem WritesSigned.eq_plus_or_isDigit (h : WritesSigned cs n) :
    ∀ c ∈ cs, c = '+' ∨ c.isDigit := by
  obtain ⟨digits, rfl | rfl, hdigits⟩ := h
  · exact fun c hc => .inr (hdigits.isDigit c hc)
  · intro c hc
    exact (List.mem_cons.1 hc).imp id (hdigits.isDigit c)

/-- Neither a sign nor a digit is white space or an upper case letter. -/
theorem WritesSigned.plain (h : WritesSigned cs n) :
    ∀ c ∈ cs, isBlank c = false ∧ c.toLower = c := by
  intro c hc
  rcases h.eq_plus_or_isDigit c hc with rfl | hdigit
  · decide
  · exact ⟨not_isBlank_of_isDecimal (isDecimal_of_isDigit hdigit), toLower_of_isDigit hdigit⟩

/-- The case of letters does not matter, for a number has none. -/
theorem writesSigned_lower {s : String} :
    WritesSigned (lower s).toList n ↔ WritesSigned s.toList n := by
  constructor
  · intro h
    have hself : lower s = s := lower_eq_self fun c hc => by
      have hmem : c.toLower ∈ (lower s).toList := by
        rw [lower, String.toList_ofList]
        exact List.mem_map_of_mem hc
      have hcode : c.toLower.toNat < 97 := by
        rcases h.eq_plus_or_isDigit _ hmem with hplus | hdigit
        · rw [hplus]
          decide
        · have hcode := toNat_of_isDigit hdigit
          omega
      exact (eq_of_toLower_eq rfl hcode).symm
    rwa [hself] at h
  · intro h
    rwa [lower_eq_self fun c hc => (h.plain c hc).2]

/-- White space around a number does not matter, for a number has none. -/
theorem writesSigned_trim {s : String} :
    WritesSigned (trim s).toList n ↔ ∃ core, IsPadded s core ∧ WritesSigned core.toList n := by
  constructor
  · exact fun h => ⟨trim s, isPadded_trim s, h⟩
  · rintro ⟨core, hpadded, hcore⟩
    have htrimmed : IsTrimmed core :=
      ⟨fun c hc => (hcore.plain c (List.mem_of_mem_head? hc)).1,
        fun c hc => (hcore.plain c (List.mem_of_getLast? hc)).1⟩
    rwa [trim_eq_of_isPadded hpadded, trim_eq_self htrimmed]

theorem natural?_eq_some_iff_signed {limit : Nat} {s : String} :
    natural? limit s = some n ↔ WritesSigned s.toList n ∧ n ≤ limit := by
  unfold natural?
  split
  next rest hs =>
    rw [Option.filter_eq_some_iff, digits?_eq_some_iff, decide_eq_true_iff, hs]
    refine and_congr_left fun _ => ⟨fun h => ⟨rest, .inr rfl, h⟩, ?_⟩
    rintro ⟨digits, rfl | hrest, hdigits⟩
    · exact absurd (hdigits.isDigit '+' List.mem_cons_self) (by decide)
    · exact (List.cons.inj hrest).2 ▸ hdigits
  next hs =>
    rw [Option.filter_eq_some_iff, digits?_eq_some_iff, decide_eq_true_iff]
    refine and_congr_left fun _ => ⟨fun h => ⟨_, .inl rfl, h⟩, ?_⟩
    rintro ⟨digits, hsame | hplus, hdigits⟩
    · exact hsame ▸ hdigits
    · exact absurd hplus (hs digits)

theorem writesSigned_iff (h : cs.head? ≠ some '+') : WritesSigned cs n ↔ Writes cs n := by
  constructor
  · rintro ⟨digits, rfl | rfl, hdigits⟩
    · exact hdigits
    · exact absurd rfl h
  · exact fun hcs => ⟨cs, .inl rfl, hcs⟩

/-- A number without a sign is read up to a limit. -/
theorem natural?_eq_some_iff {limit : Nat} (h : cs.head? ≠ some '+') :
    natural? limit (String.ofList cs) = some n ↔ Writes cs n ∧ n ≤ limit := by
  rw [natural?_eq_some_iff_signed, String.toList_ofList, writesSigned_iff h]

theorem uint8?_eq_some_iff {byte : UInt8} (h : cs.head? ≠ some '+') :
    uint8? (String.ofList cs) = some byte ↔ Writes cs byte.toNat := by
  simp only [uint8?, Option.map_eq_some_iff, natural?_eq_some_iff h]
  constructor
  · rintro ⟨n, ⟨hn, hle⟩, rfl⟩
    rwa [UInt8.toNat_ofNat_of_lt' (Nat.lt_succ_of_le hle)]
  · intro hbyte
    exact ⟨byte.toNat, ⟨hbyte, Nat.le_of_lt_succ byte.toNat_lt⟩, UInt8.ofNat_toNat⟩

theorem uint32?_eq_some_iff {s : String} {word : UInt32} :
    uint32? s = some word ↔ WritesSigned s.toList word.toNat := by
  simp only [uint32?, Option.map_eq_some_iff, natural?_eq_some_iff_signed]
  constructor
  · rintro ⟨n, ⟨hn, hle⟩, rfl⟩
    rwa [UInt32.toNat_ofNat_of_lt' (Nat.lt_succ_of_le hle)]
  · intro hword
    exact ⟨word.toNat, ⟨hword, Nat.le_of_lt_succ word.toNat_lt⟩, UInt32.ofNat_toNat⟩

end Renderflow.Text
