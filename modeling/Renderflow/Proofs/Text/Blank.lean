import Mathlib.Data.List.DropRight
import Renderflow.Text.Basic
import Renderflow.Text.Digit

/-!
# Trimmed texts

A trimmed text has no white space at its ends. Trimming leads there and changes nothing there,
so what was trimmed once stays as it is. White space around a text is lost when it is trimmed.
-/

namespace Renderflow.Text

/-- A text without white space at its ends. -/
structure IsTrimmed (s : String) : Prop where
  first : ∀ c, s.toList.head? = some c → isBlank c = false
  last : ∀ c, s.toList.getLast? = some c → isBlank c = false

/-- A run of characters of a kind ends before a character of another kind. -/
theorem span_run {p : Char → Bool} {run rest : List Char} (hrun : ∀ c ∈ run, p c)
    (hrest : ∀ c, rest.head? = some c → p c = false) :
    (run ++ rest).takeWhile p = run ∧ (run ++ rest).dropWhile p = rest := by
  have hnone : rest.takeWhile p = [] ∧ rest.dropWhile p = rest := by
    cases rest with
    | nil => simp
    | cons c rest => simp [hrest c rfl]
  rw [List.takeWhile_append_of_pos hrun, List.dropWhile_append_of_pos hrun, hnone.1, hnone.2]
  simp

theorem trimStart_eq_self {cs : List Char} (h : ∀ c, cs.head? = some c → isBlank c = false) :
    trimStart cs = cs := by
  cases cs with
  | nil => rfl
  | cons c cs => simp [trimStart, h c rfl]

theorem trimEnd_eq_self {cs : List Char} (h : ∀ c, cs.getLast? = some c → isBlank c = false) :
    trimEnd cs = cs := by
  have hrev : trimStart cs.reverse = cs.reverse :=
    trimStart_eq_self fun c hc => h c (by simpa using hc)
  rw [trimEnd, ← trimStart, hrev, List.reverse_reverse]

theorem trim_eq_self {s : String} (h : IsTrimmed s) : trim s = s := by
  rw [trim, trimStart_eq_self h.first, trimEnd_eq_self h.last, String.ofList_toList]

theorem isBlank_of_head?_trimStart {cs : List Char} {c : Char} (h : (trimStart cs).head? = some c) :
    isBlank c = false := by
  have hc := List.head?_dropWhile_not isBlank cs
  rw [← trimStart, h] at hc
  simpa using hc

theorem trimEnd_prefix (cs : List Char) : trimEnd cs <+: cs :=
  List.rdropWhile_prefix isBlank cs

theorem subset_trim (s : String) : (trim s).toList ⊆ s.toList := by
  have hend := trimEnd_prefix (trimStart s.toList)
  rw [trim, String.toList_ofList]
  exact List.Subset.trans hend.subset (List.dropWhile_suffix isBlank).subset

theorem isTrimmed_trim (s : String) : IsTrimmed (trim s) where
  first c hc := by
    rw [trim, String.toList_ofList] at hc
    obtain ⟨rest, hrest⟩ := trimEnd_prefix (trimStart s.toList)
    have hhead : (trimStart s.toList).head? = some c := by
      rw [← hrest, List.head?_append, hc]
      rfl
    exact isBlank_of_head?_trimStart hhead
  last c hc := by
    rw [trim, String.toList_ofList, trimEnd, List.getLast?_reverse, ← trimStart] at hc
    exact isBlank_of_head?_trimStart hc

theorem trim_trim (s : String) : trim (trim s) = trim s :=
  trim_eq_self (isTrimmed_trim s)

theorem trim_space_append (s : String) : trim (" " ++ s) = trim s := by
  simp [trim, trimStart, isBlank]

/-! ## White space around a text -/

/-- A text is another one with white space around it. -/
def IsPadded (s core : String) : Prop :=
  ∃ before after : List Char, s.toList = before ++ (core.toList ++ after) ∧
    (∀ c ∈ before, isBlank c) ∧ ∀ c ∈ after, isBlank c

theorem trimEnd_append_of_blank {cs after : List Char} (h : ∀ c ∈ after, isBlank c) :
    trimEnd (cs ++ after) = trimEnd cs := by
  have hreverse : ∀ c ∈ after.reverse, isBlank c := fun c hc => h c (List.mem_reverse.1 hc)
  rw [trimEnd, trimEnd, List.reverse_append, List.dropWhile_append_of_pos hreverse]

theorem trim_eq_of_isPadded {s core : String} (h : IsPadded s core) : trim s = trim core := by
  obtain ⟨before, after, hs, hbefore, hafter⟩ := h
  have hstart : trimStart s.toList = trimStart (core.toList ++ after) := by
    rw [hs, trimStart, trimStart, List.dropWhile_append_of_pos hbefore]
  rw [trim, trim, hstart, trimStart, List.dropWhile_append, ← trimStart]
  split
  next hcore =>
    -- nothing but white space is left of the text, whatever follows it
    rw [List.isEmpty_iff.1 hcore, List.dropWhile_eq_nil_iff.2 hafter]
  next => rw [trimEnd_append_of_blank hafter]

theorem isPadded_trimStart (s : String) : IsPadded s (String.ofList (trimStart s.toList)) := by
  refine ⟨s.toList.takeWhile isBlank, [], ?_, fun c hc => List.mem_takeWhile_imp hc, by simp⟩
  rw [String.toList_ofList, List.append_nil, trimStart, List.takeWhile_append_dropWhile]

theorem isPadded_trimEnd (s : String) : IsPadded s (String.ofList (trimEnd s.toList)) := by
  refine ⟨[], s.toList.rtakeWhile isBlank, ?_, by simp, fun c hc => List.mem_rtakeWhile_imp hc⟩
  rw [String.toList_ofList, List.nil_append]
  exact List.rdropWhile_append_rtakeWhile.symm

theorem isPadded_trim (s : String) : IsPadded s (trim s) := by
  refine ⟨s.toList.takeWhile isBlank, (trimStart s.toList).rtakeWhile isBlank, ?_,
    fun c hc => List.mem_takeWhile_imp hc, fun c hc => List.mem_rtakeWhile_imp hc⟩
  have hend : trimEnd (trimStart s.toList) ++ (trimStart s.toList).rtakeWhile isBlank =
      trimStart s.toList := List.rdropWhile_append_rtakeWhile
  rw [trim, String.toList_ofList, hend, trimStart, List.takeWhile_append_dropWhile]

theorem trimStart_append_cons {c : Char} (hc : isBlank c = false) (cs ds : List Char) :
    trimStart (cs ++ c :: ds) = trimStart cs ++ c :: ds := by
  rw [trimStart, List.dropWhile_append, ← trimStart]
  split
  next hcs => simp [List.isEmpty_iff.1 hcs, hc]
  next => rfl

theorem trimEnd_append_cons {c : Char} (hc : isBlank c = false) (cs ds : List Char) :
    trimEnd (cs ++ c :: ds) = cs ++ c :: trimEnd ds := by
  have hreverse : (cs ++ c :: ds).reverse = ds.reverse ++ c :: cs.reverse := by simp
  rw [trimEnd, hreverse, ← trimStart, trimStart_append_cons hc]
  simp [trimEnd, trimStart]

/-- The two ends of a text are trimmed apart if there is something else than white space between. -/
theorem toList_trim_of_append_cons {s : String} {c : Char} (hc : isBlank c = false)
    {cs ds : List Char} (hs : s.toList = cs ++ c :: ds) :
    (trim s).toList = trimStart cs ++ c :: trimEnd ds := by
  rw [trim, hs, trimStart_append_cons hc, trimEnd_append_cons hc, String.toList_ofList]

/-- What stands between two trimmed texts is kept. -/
theorem IsTrimmed.append {s t : String} (hs : IsTrimmed s) (hne : s ≠ "") (between : String)
    (ht : IsTrimmed t) (hne' : t ≠ "") : IsTrimmed (s ++ between ++ t) where
  first c hc := by
    rw [String.append_assoc, String.toList_append, List.head?_append_of_ne_nil] at hc
    · exact hs.first c hc
    · simpa using hne
  last c hc := by
    rw [String.toList_append, List.getLast?_append_of_ne_nil] at hc
    · exact ht.last c hc
    · simpa using hne'

theorem nonBlank?_eq_some_iff {s t : String} :
    nonBlank? s = some t ↔ trim s = t ∧ t ≠ "" := by
  unfold nonBlank?
  by_cases h : (trim s).isEmpty
  · simp only [h, if_true, reduceCtorEq, false_iff, not_and, not_not]
    rintro rfl
    simpa using h
  · simp only [h, Bool.false_eq_true, if_false, Option.some.injEq]
    refine ⟨fun ht => ⟨ht, ?_⟩, And.left⟩
    rintro rfl
    simp [ht] at h

/-- What is left of a text that is not blank needs no trimming. -/
theorem nonBlank?_of_nonBlank? {s t : String} (h : nonBlank? s = some t) :
    nonBlank? t = some t := by
  obtain ⟨rfl, hne⟩ := nonBlank?_eq_some_iff.1 h
  exact nonBlank?_eq_some_iff.2 ⟨trim_trim s, hne⟩

theorem nonBlank?_of_bind {o : Option String} {t : String} (h : o.bind nonBlank? = some t) :
    nonBlank? t = some t := by
  obtain ⟨s, -, hs⟩ := Option.bind_eq_some_iff.1 h
  exact nonBlank?_of_nonBlank? hs

/-- A text that needs no trimming, where there is one. -/
theorem bind_nonBlank? {o : Option String} (h : ∀ t, o = some t → nonBlank? t = some t) :
    o.bind nonBlank? = o := by
  cases o with
  | none => rfl
  | some t =>
    rw [Option.bind_some]
    exact h t rfl

/-- The code points of the property `White_Space`. -/
def blanks : List Nat :=
  [9, 10, 11, 12, 13, 0x20, 0x85, 0xA0, 0x1680, 0x2000, 0x2001, 0x2002, 0x2003, 0x2004, 0x2005,
    0x2006, 0x2007, 0x2008, 0x2009, 0x200A, 0x2028, 0x2029, 0x202F, 0x205F, 0x3000]

theorem mem_blanks_of_isBlank {c : Char} (h : isBlank c) : c.toNat ∈ blanks := by
  simp only [isBlank, Bool.or_eq_true, Bool.and_eq_true, decide_eq_true_eq, beq_iff_eq] at h
  simp only [blanks, List.mem_cons, List.not_mem_nil, or_false]
  omega

/-- No digit is white space. -/
theorem not_isBlank_of_isDecimal {c : Char} (h : isDecimal c) : isBlank c = false := by
  have hcodes : ∀ n ∈ blanks, ¬ (zeros.any fun z => z ≤ n && n < z + 10) := by decide +kernel
  rw [Bool.eq_false_iff]
  exact fun hblank => hcodes _ (mem_blanks_of_isBlank hblank) h

end Renderflow.Text
