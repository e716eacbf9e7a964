import Renderflow.Job.Context
import Renderflow.Proofs.Text.Blank

/-!
# What is settled stays settled

A value that a job has taken from its request, its settings or the family, given as the request
of another job, is taken as it is.
-/

namespace Renderflow

/-- The first valid value, else a valid one, is valid. -/
theorem isValid_getD {α : Type} {valid : α → Bool} {a b : Option α} {fallback : α}
    (hfallback : valid fallback) :
    valid (((a.filter valid).or (b.filter valid)).getD fallback) := by
  cases ha : a.filter valid with
  | some x => exact (Option.filter_eq_some_iff.1 ha).2
  | none =>
    cases hb : b.filter valid with
    | some x => exact (Option.filter_eq_some_iff.1 hb).2
    | none => exact hfallback

namespace Sampling

variable (s : Settings) (family : Family)

theorem isSteps_resolveSteps (requested : Option UInt32) :
    isSteps (resolveSteps requested s family) :=
  isValid_getD (by cases family <;> decide)

theorem isGuidance_resolveGuidance (requested : Option Float) :
    isGuidance (resolveGuidance requested s family) :=
  isValid_getD (by cases family <;> decide)

theorem resolveSteps_of_isSteps {n : UInt32} (h : isSteps n) :
    resolveSteps (some n) s family = n := by
  rw [resolveSteps, Option.filter_some_pos h]
  rfl

theorem resolveGuidance_of_isGuidance {g : Float} (h : isGuidance g) :
    resolveGuidance (some g) s family = g := by
  rw [resolveGuidance, Option.filter_some_pos h]
  rfl

end Sampling

theorem batchSize_batchSize (requested : Option UInt32) (s : Settings) :
    batchSize (some (batchSize requested s)) s = batchSize requested s := by
  simp only [batchSize, Option.getD_some, max]
  split <;> simp

/-! ## Ratios -/

namespace AspectRatio

/-- Digits, a colon and digits, with white space around the colon alone. -/
def HasForm (text : String) : Prop :=
  ∃ width before after height : List Char,
    text.toList = width ++ before ++ ':' :: (after ++ height) ∧ width ≠ [] ∧ height ≠ [] ∧
      (∀ c ∈ width ++ height, Text.isDecimal c) ∧ ∀ c ∈ before ++ after, Text.isBlank c

theorem isRatio_iff {text : String} : isRatio text ↔ HasForm text := by
  constructor
  · intro h
    simp only [isRatio] at h
    split at h
    case h_2 => cases h
    case h_1 rest hrest =>
      simp only [Bool.and_eq_true, Bool.not_eq_true', List.isEmpty_eq_false_iff,
        List.all_eq_true] at h
      obtain ⟨⟨hwidth, hheight⟩, hdigits⟩ := h
      refine ⟨_, (text.toList.dropWhile Text.isDecimal).takeWhile Text.isBlank,
        rest.takeWhile Text.isBlank, _, ?_, hwidth, hheight, ?_, ?_⟩
      · rw [List.takeWhile_append_dropWhile, ← hrest, List.append_assoc,
          List.takeWhile_append_dropWhile, List.takeWhile_append_dropWhile]
      · rw [List.forall_mem_append]
        exact ⟨fun c hc => List.mem_takeWhile_imp hc, hdigits⟩
      · rw [List.forall_mem_append]
        exact ⟨fun c hc => List.mem_takeWhile_imp hc, fun c hc => List.mem_takeWhile_imp hc⟩
  · rintro ⟨width, before, after, height, htext, hwidth, hheight, hdigits, hblanks⟩
    rw [List.forall_mem_append] at hdigits hblanks
    have hbefore : ∀ c, (before ++ ':' :: (after ++ height)).head? = some c →
        Text.isDecimal c = false := by
      intro c hc
      cases before with
      | nil =>
        obtain rfl : ':' = c := by simpa using hc
        decide
      | cons d before =>
        obtain rfl : d = c := by simpa using hc
        have hblank : Text.isBlank d := hblanks.1 d List.mem_cons_self
        by_contra hdecimal
        rw [Bool.not_eq_false] at hdecimal
        simp [Text.not_isBlank_of_isDecimal hdecimal] at hblank
    have hcolon : ∀ c, (':' :: (after ++ height)).head? = some c → Text.isBlank c = false := by
      rintro c ⟨⟩
      decide
    have hafter : ∀ c, height.head? = some c → Text.isBlank c = false := fun c hc =>
      Text.not_isBlank_of_isDecimal (hdigits.2 c (List.mem_of_head? hc))
    obtain ⟨htake, hdrop⟩ := Text.span_run hdigits.1 hbefore
    rw [List.append_assoc] at htext
    simp only [isRatio, htext, htake, hdrop, (Text.span_run hblanks.1 hcolon).2,
      (Text.span_run hblanks.2 hafter).2]
    simpa [hwidth, hheight] using hdigits.2

/-- A ratio without white space: digits, a colon and digits. -/
structure IsCanonical (text : String) (width height : List Char) : Prop where
  width_ne : width ≠ []
  height_ne : height ≠ []
  width_digits : ∀ c ∈ width, Text.isDecimal c
  height_digits : ∀ c ∈ height, Text.isDecimal c
  toList : text.toList = width ++ ':' :: height

theorem filter_of_isDecimal {cs : List Char} (h : ∀ c ∈ cs, Text.isDecimal c) :
    cs.filter (fun c => !Text.isBlank c) = cs :=
  List.filter_eq_self.2 fun c hc => by simp [Text.not_isBlank_of_isDecimal (h c hc)]

/-- What is left of a ratio without its white space is canonical. -/
theorem exists_isCanonical {text : String} (h : isRatio text) :
    ∃ width height, IsCanonical (Text.withoutBlanks text) width height := by
  simp only [isRatio] at h
  split at h
  case h_2 => cases h
  case h_1 rest hrest =>
    simp only [Bool.and_eq_true, Bool.not_eq_true', List.isEmpty_eq_false_iff,
      List.all_eq_true] at h
    obtain ⟨⟨hwidth, hheight⟩, hdigits⟩ := h
    have hwidth_digits : ∀ c ∈ text.toList.takeWhile Text.isDecimal, Text.isDecimal c :=
      fun c hc => List.mem_takeWhile_imp hc
    refine ⟨_, _, hwidth, hheight, hwidth_digits, hdigits, ?_⟩
    have hblank (cs : List Char) :
        (cs.takeWhile Text.isBlank).filter (fun c => !Text.isBlank c) = [] :=
      List.filter_eq_nil_iff.2 fun c hc => by simp [List.mem_takeWhile_imp hc]
    have hcolon : Text.isBlank ':' = false := by decide
    rw [Text.withoutBlanks, String.toList_ofList]
    conv_lhs =>
      rw [← List.takeWhile_append_dropWhile (p := Text.isDecimal) (l := text.toList),
        ← List.takeWhile_append_dropWhile (p := Text.isBlank)
          (l := text.toList.dropWhile Text.isDecimal), hrest,
        ← List.takeWhile_append_dropWhile (p := Text.isBlank) (l := rest)]
    simp only [List.filter_append, List.filter_cons, hblank, hcolon, Bool.not_false, if_true,
      List.nil_append, filter_of_isDecimal hwidth_digits, filter_of_isDecimal hdigits]

namespace IsCanonical

variable {text : String} {width height : List Char}

theorem isTrimmed (h : IsCanonical text width height) : Text.IsTrimmed text where
  first c hc := by
    rw [h.toList, List.head?_append_of_ne_nil _ h.width_ne] at hc
    exact Text.not_isBlank_of_isDecimal (h.width_digits c (List.mem_of_head? hc))
  last c hc := by
    have hlast : (width ++ [':']) ++ height = text.toList := by simp [h.toList]
    rw [← hlast, List.getLast?_append_of_ne_nil _ h.height_ne] at hc
    exact Text.not_isBlank_of_isDecimal (h.height_digits c (List.mem_of_getLast? hc))

theorem withoutBlanks_eq (h : IsCanonical text width height) : Text.withoutBlanks text = text := by
  have hcolon : Text.isBlank ':' = false := by decide
  apply String.toList_inj.1
  rw [Text.withoutBlanks, String.toList_ofList, h.toList, List.filter_append, List.filter_cons,
    filter_of_isDecimal h.width_digits, filter_of_isDecimal h.height_digits]
  simp [hcolon]

theorem isRatio (h : IsCanonical text width height) : AspectRatio.isRatio text := by
  have hcolon : Text.isDecimal ':' = false := by decide
  have htake : (width ++ ':' :: height).takeWhile Text.isDecimal = width := by
    rw [List.takeWhile_append_of_pos h.width_digits, List.takeWhile_cons_of_neg (by simp [hcolon])]
    simp
  have hdrop : (width ++ ':' :: height).dropWhile Text.isDecimal = ':' :: height := by
    rw [List.dropWhile_append_of_pos h.width_digits, List.dropWhile_cons_of_neg (by simp [hcolon])]
  have hheight : height.dropWhile Text.isBlank = height := by
    refine Text.trimStart_eq_self fun c hc => ?_
    exact Text.not_isBlank_of_isDecimal (h.height_digits c (List.mem_of_head? hc))
  have hblank : (':' :: height).dropWhile Text.isBlank = ':' :: height :=
    List.dropWhile_cons_of_neg (by decide)
  simp only [AspectRatio.isRatio, h.toList, htake, hdrop, hblank, hheight]
  simpa [h.width_ne, h.height_ne] using h.height_digits

/-- A canonical ratio is taken as it is. -/
theorem resolve_eq (h : IsCanonical text width height) (s : Settings) :
    resolve (some text) s = .ok text := by
  have hne : text ≠ "" := by
    rintro rfl
    simpa using h.toList
  have hnonBlank : Text.nonBlank? text = some text :=
    Text.nonBlank?_eq_some_iff.2 ⟨Text.trim_eq_self h.isTrimmed, hne⟩
  simp [resolve, hnonBlank, h.isRatio, h.withoutBlanks_eq]

end IsCanonical

/-- The ratio of a job is canonical. -/
theorem isCanonical_of_resolve {requested : Option String} {s : Settings} {ratio : String}
    (h : resolve requested s = .ok ratio) : ∃ width height, IsCanonical ratio width height := by
  unfold resolve at h
  cases hrequested : requested.bind Text.nonBlank? with
  | some text =>
    simp only [hrequested] at h
    by_cases hratio : isRatio text
    · rw [if_pos hratio] at h
      cases h
      exact exists_isCanonical hratio
    · rw [if_neg hratio] at h
      cases h
  | none =>
    simp only [hrequested, configured] at h
    cases hconfigured : (s.defaultAspectRatio.map Text.trim).filter isRatio with
    | some text =>
      simp only [hconfigured] at h
      cases h
      exact exists_isCanonical (Option.filter_eq_some_iff.1 hconfigured).2
    | none =>
      simp only [hconfigured] at h
      cases h
      have hone : ∀ c ∈ ['1'], Text.isDecimal c := by
        simpa using Text.isDecimal_of_isDigit (c := '1') (by decide)
      exact ⟨['1'], ['1'], by simp, by simp, hone, hone, rfl⟩

/-- The ratio of a job, requested of another one, is taken as it is. -/
theorem resolve_resolved {requested : Option String} {s : Settings} {ratio : String}
    (h : resolve requested s = .ok ratio) : resolve (some ratio) s = .ok ratio := by
  obtain ⟨width, height, hcanonical⟩ := isCanonical_of_resolve h
  exact hcanonical.resolve_eq s

end AspectRatio

/-! ## Styles -/

theorem requestedStyle_of_nonBlank? {name : String} (h : Text.nonBlank? name = some name)
    (s : Settings) (family : Family) : requestedStyle (some name) s family = name := by
  simp [requestedStyle, h]

/-- A resolved style is `off`, or it has the name that it was resolved by. -/
theorem ResolvedStyle.name_of_resolve {book : StyleBook} {text : String} {family : Family}
    {rs : ResolvedStyle} (h : resolve book text family = .ok rs) :
    rs = off ∨ rs.name = Text.trim text ∧ Text.trim text ≠ "" := by
  unfold resolve at h
  by_cases hoff : (Text.trim text).isEmpty || isOff (Text.trim text)
  · rw [if_pos hoff] at h
    cases h
    exact .inl rfl
  · have hne : Text.trim text ≠ "" := by
      rintro hempty
      simp [hempty] at hoff
    rw [if_neg hoff] at h
    cases hstyle : book.find? (Text.trim text) with
    | none => simp [hstyle] at h
    | some style =>
      simp only [hstyle] at h
      split at h <;> cases h <;> exact .inr ⟨rfl, hne⟩

/-- The name of the style of a job, requested of another one, resolves to the same style. -/
theorem ResolvedStyle.resolve_resolved {book : StyleBook} {text : String} {family : Family}
    {rs : ResolvedStyle} (h : resolve book text family = .ok rs) (s : Settings) :
    resolve book (requestedStyle (some rs.name) s family) family = .ok rs := by
  rcases name_of_resolve h with rfl | ⟨hname, hne⟩
  · have hoff : Text.nonBlank? off.name = some off.name := by decide
    rw [requestedStyle_of_nonBlank? hoff]
    rfl
  · have hnonBlank : Text.nonBlank? rs.name = some rs.name := by
      rw [hname]
      exact Text.nonBlank?_eq_some_iff.2 ⟨Text.trim_trim text, hne⟩
    rw [requestedStyle_of_nonBlank? hnonBlank, hname, ← h]
    simp only [resolve, Text.trim_trim]

end Renderflow
