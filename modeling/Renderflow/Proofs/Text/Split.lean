import Mathlib.Data.List.Forall2
import Mathlib.Data.List.TakeWhile
import Renderflow.Text.Split

/-!
# Taking text apart at separators

The runs of a text around a separator are those of the two sides, whichever separator it is, and a
text that is cut at its last separator is what it was cut into, with nothing left to cut behind the
cut. A text is found within another one where it stands there.
-/

namespace Renderflow.Text

theorem splitBy_ne_nil (sep : Char → Bool) (cs : List Char) : splitBy sep cs ≠ [] := by
  cases cs with
  | nil => simp [splitBy]
  | cons c cs =>
    rw [splitBy]
    split
    · simp
    · split <;> simp

theorem splitBy_append_cons {sep : Char → Bool} {c : Char} (hc : sep c) (cs ds : List Char) :
    splitBy sep (cs ++ c :: ds) = splitBy sep cs ++ splitBy sep ds := by
  induction cs with
  | nil => simp [splitBy, hc]
  | cons d cs ih =>
    obtain ⟨run, runs, hruns⟩ := List.exists_cons_of_ne_nil (splitBy_ne_nil sep cs)
    rw [List.cons_append, splitBy, splitBy, ih, hruns]
    split <;> rfl

/-- Texts that differ in their separators alone are split into the same runs. -/
theorem splitBy_congr {sep : Char → Bool} {cs ds : List Char}
    (h : List.Forall₂ (fun c d => c = d ∨ sep c ∧ sep d) cs ds) :
    splitBy sep cs = splitBy sep ds := by
  induction h with
  | nil => rfl
  | cons hcd _ ih =>
    rcases hcd with rfl | ⟨hc, hd⟩
    · rw [splitBy, splitBy, ih]
    · rw [splitBy, splitBy, if_pos hc, if_pos hd, ih]

/-- Separators stay where they are when the characters of a text are changed one by one. -/
theorem splitBy_map {sep : Char → Bool} {f : Char → Char} (hf : ∀ c, sep (f c) = sep c)
    (cs : List Char) : splitBy sep (cs.map f) = (splitBy sep cs).map (List.map f) := by
  induction cs with
  | nil => rfl
  | cons c cs ih =>
    obtain ⟨run, runs, hruns⟩ := List.exists_cons_of_ne_nil (splitBy_ne_nil sep cs)
    rw [List.map_cons, splitBy, splitBy, hf, ih, hruns]
    split <;> rfl

theorem startsWith_iff {s start : String} : startsWith s start ↔ start.toList <+: s.toList :=
  List.isPrefixOf_iff_prefix

theorem occursIn_iff {part cs : List Char} : occursIn part cs ↔ part <:+: cs := by
  induction cs with
  | nil => simp [occursIn]
  | cons c cs ih =>
    rw [occursIn, Bool.or_eq_true, List.isPrefixOf_iff_prefix, ih, List.infix_cons_iff]

theorem contains_iff {s part : String} : contains s part ↔ part.toList <:+: s.toList :=
  occursIn_iff

theorem cutLast?_eq_some {c : Char} {s before after : String}
    (h : cutLast? c s = some (before, after)) :
    s.toList = before.toList ++ c :: after.toList ∧ c ∉ after.toList := by
  have hall := List.takeWhile_append_dropWhile (p := (· != c)) (l := s.toList.reverse)
  have htake : ∀ d ∈ s.toList.reverse.takeWhile (· != c), d ≠ c := fun d hd => by
    simpa using List.mem_takeWhile_imp hd
  rw [cutLast?] at h
  split at h
  · cases h
  · next d rest hdrop =>
    have hd : d = c := by
      have hhead := List.head?_dropWhile_not (· != c) s.toList.reverse
      simpa [hdrop] using hhead
    cases h
    subst hd
    rw [hdrop] at hall
    have hs := congrArg List.reverse hall
    simp only [List.reverse_append, List.reverse_cons, List.reverse_reverse, List.append_assoc,
      List.singleton_append] at hs
    simp only [String.toList_ofList, List.mem_reverse]
    exact ⟨hs.symm, fun hmem => htake d hmem rfl⟩

theorem cutLast?_eq_some_iff {c : Char} {s before after : String} :
    cutLast? c s = some (before, after) ↔
      s.toList = before.toList ++ c :: after.toList ∧ c ∉ after.toList := by
  refine ⟨cutLast?_eq_some, fun ⟨hs, hnot⟩ => ?_⟩
  have hafter : ∀ d ∈ after.toList.reverse, (d != c) = true := by
    simpa using fun d hd (heq : d = c) => hnot (heq ▸ hd)
  have hreverse : s.toList.reverse = after.toList.reverse ++ c :: before.toList.reverse := by
    simp [hs]
  have htake : s.toList.reverse.takeWhile (· != c) = after.toList.reverse := by
    rw [hreverse, List.takeWhile_append_of_pos hafter]
    simp
  have hdrop : s.toList.reverse.dropWhile (· != c) = c :: before.toList.reverse := by
    rw [hreverse, List.dropWhile_append_of_pos hafter]
    simp
  simp [cutLast?, htake, hdrop]

end Renderflow.Text
