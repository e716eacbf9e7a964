import Renderflow.Model
import Renderflow.Proofs.Error
import Renderflow.Proofs.Style
import Renderflow.Proofs.Text.Print

/-!
# Selections of resolved models

The selection of a resolved model names its family and its file, so it resolves to the model
again, whether the family was inferred before or not.
-/

namespace Renderflow.Model

theorem ofKey?_tag (family : Family) : Family.ofKey? family.tag = some family := by
  rw [Family.ofKey?_eq_some_iff]
  cases family <;> decide

theorem isTrimmed_tag (family : Family) : Text.IsTrimmed family.tag := by
  cases family <;> exact ⟨fun c hc => by cases hc; decide, fun c hc => by cases hc; decide⟩

variable {m : Model} {text : String}

theorem isTrimmed_of_explicit? {selection filename : String} {family : Family}
    (h : explicit? selection = some (family, filename)) : Text.IsTrimmed filename := by
  obtain ⟨⟨key, rest⟩, -, hrest⟩ := Option.bind_eq_some_iff.1 h
  obtain ⟨_, -, hfilename⟩ := Option.bind_eq_some_iff.1 hrest
  obtain ⟨-, rfl⟩ := Prod.mk.inj (Option.some.inj hfilename)
  exact Text.isTrimmed_trim rest

/-- The file name of a resolved model is trimmed and not empty. -/
theorem filename_of_resolve (h : resolve text = .ok m) :
    Text.IsTrimmed m.filename ∧ m.filename ≠ "" := by
  unfold resolve at h
  by_cases hempty : (Text.trim text).isEmpty
  · simp [hempty] at h
  simp only [hempty, Bool.false_eq_true, if_false] at h
  cases hexplicit : explicit? (Text.trim text) with
  | some named =>
    obtain ⟨family, filename⟩ := named
    simp only [hexplicit] at h
    by_cases hfilename : filename.isEmpty
    · simp [hfilename] at h
    · simp only [hfilename, Bool.false_eq_true, if_false] at h
      cases h
      exact ⟨isTrimmed_of_explicit? hexplicit, by simpa using hfilename⟩
  | none =>
    simp only [hexplicit] at h
    obtain ⟨family, -, hm⟩ := bind_eq_ok_iff.1 h
    cases hm
    exact ⟨Text.isTrimmed_trim text, by simpa using hempty⟩

theorem explicit?_selection (h : Text.IsTrimmed m.filename) :
    explicit? m.selection = some (m.family, m.filename) := by
  have hcolon : ':' ∉ m.family.tag.toList := by cases m.family <;> decide
  have hcut : Text.cutFirst? ':' m.selection = some (m.family.tag, " " ++ m.filename) :=
    Text.cutFirst?_eq_some (by simp [selection]) hcolon
  have htrim : Text.trim (" " ++ m.filename) = m.filename :=
    (Text.trim_space_append m.filename).trans (Text.trim_eq_self h)
  simp [explicit?, hcut, ofKey?_tag, htrim]

/-- The selection of a resolved model is a text that needs no trimming. -/
theorem nonBlank?_selection (h : Text.IsTrimmed m.filename) (hne : m.filename ≠ "") :
    Text.nonBlank? m.selection = some m.selection := by
  have htag : m.family.tag ≠ "" := by cases m.family <;> decide
  refine Text.nonBlank?_eq_some_iff.2
    ⟨Text.trim_eq_self ((isTrimmed_tag m.family).append htag ": " h hne), ?_⟩
  simp [selection]

/-- The selection of a resolved model resolves to the model, whose family is explicit then. -/
theorem resolve_selection (h : resolve text = .ok m) :
    resolve m.selection = .ok { m with inferred := false } := by
  obtain ⟨htrimmed, hne⟩ := filename_of_resolve h
  obtain ⟨htrim, hselection⟩ := Text.nonBlank?_eq_some_iff.1 (nonBlank?_selection htrimmed hne)
  simp [resolve, htrim, hselection, explicit?_selection htrimmed, hne]

end Renderflow.Model
