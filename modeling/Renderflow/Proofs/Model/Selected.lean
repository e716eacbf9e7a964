import Renderflow.Proofs.Model.Inference

/-!
# The selected model

A selection names a family and a file, or it is a file whose family is inferred; else it is refused.
A job runs on the model of the requested selection, or of that in the settings.
-/

namespace Renderflow

namespace Model

/-- What a selection resolves to. -/
inductive Resolves (text : String) : Except ResourceError Model → Prop
  | blank (h : Text.trim text = "") : Resolves text (.error .noModelSelected)
  | unnamed {family : Family} (h : Names (Text.trim text) family "") :
    Resolves text (.error .noModelSelected)
  | named {family : Family} {filename : String} (h : Names (Text.trim text) family filename)
    (hne : filename ≠ "") : Resolves text (.ok { family, filename, inferred := false })
  | inferred {family : Family} (hne : Text.trim text ≠ "")
    (hplain : ∀ family filename, ¬ Names (Text.trim text) family filename)
    (h : Infers (Text.trim text) (.ok family)) :
    Resolves text (.ok { family, filename := Text.trim text, inferred := true })
  | unknown {cause : ResourceError} (hne : Text.trim text ≠ "")
    (hplain : ∀ family filename, ¬ Names (Text.trim text) family filename)
    (h : Infers (Text.trim text) (.error cause)) : Resolves text (.error cause)

variable {text : String}

theorem resolve_of_resolves {r : Except ResourceError Model} (h : Resolves text r) :
    resolve text = r := by
  cases h with
  | blank h => simp [resolve, h]
  | unnamed h => simp [resolve, h.ne_empty, explicit?_eq_some_iff.2 h]
  | named h hne => simp [resolve, h.ne_empty, explicit?_eq_some_iff.2 h, hne]
  | inferred hne hplain h =>
    simp only [resolve, String.isEmpty_iff, hne, explicit?_eq_none_iff.2 hplain,
      inferFamily_eq_iff_infers.2 h]
    rfl
  | unknown hne hplain h =>
    simp only [resolve, String.isEmpty_iff, hne, explicit?_eq_none_iff.2 hplain,
      inferFamily_eq_iff_infers.2 h]
    rfl

theorem resolves_resolve (text : String) : Resolves text (resolve text) := by
  unfold resolve
  simp only
  split
  · next hblank => exact .blank (String.isEmpty_iff.1 hblank)
  · next hne =>
    rw [String.isEmpty_iff] at hne
    cases hexplicit : explicit? (Text.trim text) with
    | some named =>
      obtain ⟨family, filename⟩ := named
      have hnames := explicit?_eq_some_iff.1 hexplicit
      by_cases hempty : filename = ""
      · subst hempty
        exact .unnamed hnames
      · simpa [hempty] using .named hnames hempty
    | none =>
      have hplain := explicit?_eq_none_iff.1 hexplicit
      cases hinfer : inferFamily (Text.trim text) with
      | ok family => exact .inferred hne hplain (inferFamily_eq_iff_infers.1 hinfer)
      | error cause => exact .unknown hne hplain (inferFamily_eq_iff_infers.1 hinfer)

theorem resolve_eq_iff_resolves {r : Except ResourceError Model} :
    resolve text = r ↔ Resolves text r :=
  ⟨fun h => h ▸ resolves_resolve text, resolve_of_resolves⟩

/-- A selection that is not blank is refused if it names a family but no file, or if it names no
family and none can be inferred. -/
theorem Resolves.error {cause : ResourceError} (h : Resolves text (.error cause))
    (htext : Text.nonBlank? text = some text) :
    cause = .noModelSelected ∧ (∃ family, Names text family "") ∨
      cause = .unrecognizedModel text ∧ ∀ family filename, ¬ Names text family filename := by
  obtain ⟨htrim, hne⟩ := Text.nonBlank?_eq_some_iff.1 htext
  cases h with
  | blank h => exact absurd (htrim.symm.trans h) hne
  | @unnamed family h =>
    rw [htrim] at h
    exact .inl ⟨rfl, family, h⟩
  | unknown _ hplain h =>
    rw [htrim] at hplain h
    cases h with
    | unknown => exact .inr ⟨rfl, hplain⟩

end Model

/-! ## What selects a model -/

/-- The text that selects the model of a job: the requested one, or that of the settings if none is
requested. -/
inductive Selection (requested : Option String) (s : Settings) : String → Prop
  | requested {text : String} (h : requested.bind Text.nonBlank? = some text) :
    Selection requested s text
  | configured {text : String} (hblank : requested.bind Text.nonBlank? = none)
    (h : s.selectedModel.bind Text.nonBlank? = some text) : Selection requested s text

variable {requested : Option String} {s : Settings} {text : String}

theorem selection_iff : Selection requested s text ↔
    (requested.bind Text.nonBlank?).or (s.selectedModel.bind Text.nonBlank?) = some text := by
  rw [Option.or_eq_some_iff]
  constructor
  · rintro (h | ⟨hblank, h⟩)
    · exact .inl h
    · exact .inr ⟨hblank, h⟩
  · rintro (h | ⟨hblank, h⟩)
    · exact .requested h
    · exact .configured hblank h

theorem Selection.unique {text' : String} (h : Selection requested s text)
    (h' : Selection requested s text') : text' = text :=
  Option.some.inj ((selection_iff.1 h').symm.trans (selection_iff.1 h))

/-- A selection is trimmed and not empty. -/
theorem Selection.nonBlank? (h : Selection requested s text) : Text.nonBlank? text = some text := by
  cases h with
  | requested h => exact Text.nonBlank?_of_bind h
  | configured _ h => exact Text.nonBlank?_of_bind h

/-- The model that a job runs on. -/
def Selects (requested : Option String) (s : Settings) (m : Model) : Prop :=
  ∃ text, Selection requested s text ∧ Model.Resolves text (.ok m)

theorem selects_iff {m : Model} : Selects requested s m ↔ selectedModel requested s = .ok m := by
  simp only [Selects, selection_iff, ← Model.resolve_eq_iff_resolves, selectedModel]
  cases (requested.bind Text.nonBlank?).or (s.selectedModel.bind Text.nonBlank?) <;> simp

theorem selectedModel_error {cause : ResourceError} (h : selectedModel requested s = .error cause) :
    (∀ text, ¬ Selection requested s text) ∧ cause = .noModelSelected ∨
      ∃ text, Selection requested s text ∧ Model.Resolves text (.error cause) := by
  simp only [selection_iff, ← Model.resolve_eq_iff_resolves]
  unfold selectedModel at h
  split at h
  · next hnone => exact .inl ⟨by simp [hnone], (Except.error.inj h).symm⟩
  · next text hsome => exact .inr ⟨text, hsome, h⟩

/-- No model is selected: the selection is blank, or it names a family without a file. -/
def NothingSelected (requested : Option String) (s : Settings) : Prop :=
  ∀ text, Selection requested s text → ∃ family, Model.Names text family ""

theorem noModelSelected_iff :
    selectedModel requested s = .error .noModelSelected ↔ NothingSelected requested s := by
  constructor
  · intro h text htext
    rcases selectedModel_error h with ⟨hnone, -⟩ | ⟨text', htext', hresolve⟩
    · exact absurd htext (hnone text)
    · obtain rfl := htext'.unique htext
      rcases hresolve.error htext.nonBlank? with ⟨-, hnames⟩ | ⟨⟨⟩, -⟩
      exact hnames
  · intro h
    cases hselected : (requested.bind Text.nonBlank?).or (s.selectedModel.bind Text.nonBlank?) with
    | none => simp [selectedModel, hselected]
    | some text =>
      have htext : Selection requested s text := selection_iff.2 hselected
      obtain ⟨family, hnames⟩ := h text htext
      simp only [selectedModel, hselected]
      exact (Model.resolve_of_names hnames).trans (if_pos rfl)

end Renderflow
