import Renderflow.Style

/-!
# Styles and families

Which style a text names and which families a style is made for, and what a resolved style is
in each case. A style for another family counts as none, but for a warning.
-/

namespace Renderflow

/-- A text names a family by its key, with white space around it and in any case. -/
theorem Family.ofKey?_eq_some_iff {text : String} {family : Family} :
    Family.ofKey? text = some family ↔ Text.sameLetters family.key (Text.trim text) := by
  have hkeys : ∀ f g : Family, Text.lower f.key = Text.lower g.key → f = g := by
    intro f g
    cases f <;> cases g <;> decide
  unfold ofKey?
  constructor
  · intro h
    simpa using List.find?_some h
  · intro h
    cases hfind : all.find? fun f => Text.sameLetters f.key (Text.trim text) with
    | none =>
      have hmem : family ∈ all := by cases family <;> decide
      simpa [h] using List.find?_eq_none.1 hfind family hmem
    | some f =>
      have hf : Text.sameLetters f.key (Text.trim text) := by simpa using List.find?_some hfind
      rw [Text.sameLetters_iff] at h hf
      rw [hkeys f family (hf.trans h.symm)]

namespace Style

/-- A style is made for a family if its type is the key of the family, or `all`. -/
def IsFor (s : Style) (family : Family) : Prop :=
  Text.sameLetters (Text.trim s.modelType) "all" ∨
    Text.sameLetters family.key (Text.trim s.modelType)

theorem supports_iff {s : Style} {family : Family} : s.supports family ↔ s.IsFor family := by
  simp [supports, IsFor, Family.ofKey?_eq_some_iff]

end Style

namespace StyleBook

/-- A name stands for a style of the book, or for none. -/
def Lists (book : StyleBook) (name : String) : Prop :=
  Text.sameLetters name "off" ∨ ∃ style, book.find? name = some style

/-- A text that is blank, `off` or the name of a style of the book. -/
def Knows (book : StyleBook) (text : String) : Prop :=
  Text.trim text = "" ∨ book.Lists (Text.trim text)

/-- What a text names: `off`, without a style, or a style of the book by its trimmed name. -/
inductive Names (book : StyleBook) (text : String) : String → Option Style → Prop
  | off (h : Text.trim text = "" ∨ Text.sameLetters (Text.trim text) "off") :
    Names book text "off" none
  | style {style : Style} (hne : Text.trim text ≠ "")
    (hstyle : ¬ Text.sameLetters (Text.trim text) "off")
    (h : book.find? (Text.trim text) = some style) : Names book text (Text.trim text) (some style)

/-- The trimmed name of a style of the book names that style. -/
theorem Names.eq_of_find? {book : StyleBook} {text recorded : String} {style : Style}
    {style? : Option Style} (h : book.Names text recorded style?) (htrim : Text.trim text = text)
    (hne : text ≠ "") (hoff : ¬ Text.sameLetters text "off")
    (hbook : book.find? text = some style) : recorded = text ∧ style? = some style := by
  cases h with
  | off hnone =>
    rw [htrim] at hnone
    exact absurd hnone (not_or.2 ⟨hne, hoff⟩)
  | style _ _ hfind =>
    rw [htrim] at hfind ⊢
    exact ⟨rfl, hfind.symm.trans hbook⟩

end StyleBook

namespace ResolvedStyle

theorem isEmpty_or_isOff_iff {name : String} :
    (name.isEmpty || isOff name) = true ↔ name = "" ∨ Text.sameLetters name "off" := by
  rw [Bool.or_eq_true, String.isEmpty_iff, isOff]

theorem exists_resolve_iff {book : StyleBook} {text : String} {family : Family} :
    (∃ rs, resolve book text family = .ok rs) ↔ book.Knows text := by
  unfold resolve StyleBook.Knows StyleBook.Lists
  by_cases hoff : (Text.trim text).isEmpty || isOff (Text.trim text)
  · rw [if_pos hoff]
    exact iff_of_true ⟨_, rfl⟩ ((isEmpty_or_isOff_iff.1 hoff).imp_right .inl)
  · rw [if_neg hoff]
    rw [isEmpty_or_isOff_iff, not_or] at hoff
    cases hstyle : book.find? (Text.trim text) with
    | none => simp [hoff]
    | some style =>
      exact iff_of_true (by simp only; split <;> exact ⟨_, rfl⟩) (.inr (.inr ⟨_, rfl⟩))

theorem resolve_error {book : StyleBook} {text : String} {family : Family} {e : ValidationError}
    (h : resolve book text family = .error e) : e = .unknownStyle (Text.trim text) := by
  unfold resolve at h
  simp only at h
  split at h
  · cases h
  · split at h
    · exact (Except.error.inj h).symm
    · split at h <;> cases h

/-- What a style of a book, or none, resolves to for a job on a family. -/
structure Of (rs : ResolvedStyle) (style? : Option Style) (family : Family) : Prop where
  own : ∀ style, style? = some style → style.IsFor family →
    rs.slots = style.slots.map (·.getD .disabled)
  disabled : (∀ style, style? = some style → ¬ style.IsFor family) → rs.slots = allDisabled
  warning : rs.warning.isSome ↔ ∃ style, style? = some style ∧ ¬ style.IsFor family

theorem Of.off (family : Family) : ResolvedStyle.off.Of none family where
  own style h := by cases h
  disabled _ := rfl
  warning := by simp [ResolvedStyle.off]

/-- A style resolves to what its text names. -/
theorem exists_names_of_resolve {book : StyleBook} {text : String} {family : Family}
    {rs : ResolvedStyle} (h : resolve book text family = .ok rs) :
    ∃ style?, book.Names text rs.name style? ∧ rs.Of style? family := by
  unfold resolve at h
  by_cases hoff : (Text.trim text).isEmpty || isOff (Text.trim text)
  · rw [if_pos hoff] at h
    cases h
    exact ⟨none, .off (isEmpty_or_isOff_iff.1 hoff), .off family⟩
  · rw [if_neg hoff] at h
    rw [isEmpty_or_isOff_iff, not_or] at hoff
    cases hstyle : book.find? (Text.trim text) with
    | none => simp [hstyle] at h
    | some style =>
      simp only [hstyle] at h
      by_cases hfor : style.IsFor family
      · rw [if_pos (Style.supports_iff.2 hfor)] at h
        cases h
        exact ⟨some style, .style hoff.1 hoff.2 hstyle, by simp,
          by simpa using fun hnot => absurd hfor hnot, by simp [hfor]⟩
      · rw [if_neg fun hs => hfor (Style.supports_iff.1 hs)] at h
        cases h
        exact ⟨some style, .style hoff.1 hoff.2 hstyle, by simpa using fun hs => absurd hs hfor,
          by simp, by simp [hfor]⟩

end ResolvedStyle

end Renderflow
