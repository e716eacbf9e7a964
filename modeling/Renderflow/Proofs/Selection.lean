import Renderflow.Job.Context
import Renderflow.Proofs.Model
import Renderflow.Proofs.Text.Split

/-!
# What a selection names

The family and the file that a selection names, and the files that the loaders of a family can read.
-/

namespace Renderflow

namespace Model

/-- A text names a family by its key, before a colon, and a file behind the colon. -/
def Names (text : String) (family : Family) (filename : String) : Prop :=
  ∃ key rest : String, text = key ++ ":" ++ rest ∧ ':' ∉ key.toList ∧
    Text.sameLetters family.key (Text.trim key) ∧ filename = Text.trim rest

variable {text filename : String} {family : Family}

theorem explicit?_eq_some_iff : explicit? text = some (family, filename) ↔
    Names text family filename := by
  have happend (key rest : String) :
      text = key ++ ":" ++ rest ↔ text.toList = key.toList ++ ':' :: rest.toList := by
    rw [← String.toList_inj]
    simp
  simp only [explicit?, Option.bind_eq_bind, Option.bind_eq_some_iff, Prod.exists, Option.pure_def,
    Option.some.injEq, Prod.mk.injEq, Text.cutFirst?_eq_some_iff, Family.ofKey?_eq_some_iff, Names,
    happend]
  constructor
  · rintro ⟨key, rest, ⟨htext, hcolon⟩, _, hkey, rfl, rfl⟩
    exact ⟨key, rest, htext, hcolon, hkey, rfl⟩
  · rintro ⟨key, rest, htext, hcolon, hkey, rfl⟩
    exact ⟨key, rest, ⟨htext, hcolon⟩, family, hkey, rfl, rfl⟩

theorem explicit?_eq_none_iff :
    explicit? text = none ↔ ∀ family filename, ¬ Names text family filename := by
  simp [Option.eq_none_iff_forall_ne_some, ← explicit?_eq_some_iff]

/-- What names a family and a file still names them when it is trimmed. -/
theorem Names.trimmed (h : Names text family filename) :
    Names (Text.trim text) family filename := by
  obtain ⟨key, rest, rfl, hcolon, hkey, rfl⟩ := h
  have htext : (key ++ ":" ++ rest).toList = key.toList ++ ':' :: rest.toList := by simp
  refine ⟨String.ofList (Text.trimStart key.toList), String.ofList (Text.trimEnd rest.toList),
    ?_, ?_, ?_, Text.trim_eq_of_isPadded (Text.isPadded_trimEnd rest)⟩
  · rw [← String.toList_inj, Text.toList_trim_of_append_cons (by decide) htext]
    simp
  · rw [String.toList_ofList]
    exact fun hmem => hcolon ((List.dropWhile_suffix _).subset hmem)
  · have htrim := Text.trim_eq_of_isPadded (Text.isPadded_trimStart key)
    rw [htrim] at hkey
    exact hkey

theorem Names.ne_empty (h : Names text family filename) : text ≠ "" := by
  obtain ⟨key, rest, rfl, -⟩ := h
  simp

/-- A selection that names a family resolves to the file that it names. -/
theorem resolve_of_names (h : Names text family filename) :
    resolve text = if filename.isEmpty then .error .noModelSelected
      else .ok { family, filename, inferred := false } := by
  simp [resolve, h.trimmed.ne_empty, explicit?_eq_some_iff.2 h.trimmed]

end Model

/-! ## Extensions -/

/-- What stands behind the last dot of a file name, up to the case of its letters. -/
def HasExtension (filename ext : String) : Prop :=
  ∃ stem tail : String, filename = stem ++ "." ++ tail ∧ '.' ∉ tail.toList ∧
    Text.sameLetters tail ext

namespace Family

/-- The extensions of the files that the loaders of a family read. -/
def extensions : Family → List String
  | flux => ["gguf", "safetensors", "sft"]
  | wan => ["gguf", "safetensors"]
  | sdxl | qwen => ["safetensors", "ckpt"]

/-- A loader of the family reads the file. -/
def Reads (family : Family) (filename : String) : Prop :=
  ∃ ext ∈ family.extensions, HasExtension filename ext

theorem lower_of_mem_extensions {family : Family} {ext : String} (h : ext ∈ family.extensions) :
    Text.lower ext = ext ∧ ext ≠ "" := by
  have hall : ∀ ext ∈ family.extensions, Text.lower ext = ext ∧ ext ≠ "" := by
    cases family <;> decide
  exact hall ext h

end Family

namespace Model

theorem extension_eq_iff {filename ext : String} (hext : Text.lower ext = ext) (hne : ext ≠ "") :
    extension filename = ext ↔ HasExtension filename ext := by
  have happend (stem tail : String) :
      filename = stem ++ "." ++ tail ↔ filename.toList = stem.toList ++ '.' :: tail.toList := by
    rw [← String.toList_inj]
    simp
  simp only [HasExtension, happend, Text.sameLetters_iff, hext, ← and_assoc,
    ← Text.cutLast?_eq_some_iff, extension]
  cases hcut : Text.cutLast? '.' filename with
  | none => simpa using hne.symm
  | some cut =>
    constructor
    · intro h
      exact ⟨cut.1, cut.2, rfl, h⟩
    · rintro ⟨_, _, ⟨⟩, h⟩
      exact h

theorem reads_iff {family : Family} {filename : String} :
    family.Reads filename ↔ extension filename ∈ family.extensions := by
  constructor
  · rintro ⟨ext, hmem, hext⟩
    obtain ⟨hlower, hne⟩ := Family.lower_of_mem_extensions hmem
    rwa [(extension_eq_iff hlower hne).2 hext]
  · intro hmem
    obtain ⟨hlower, hne⟩ := Family.lower_of_mem_extensions hmem
    exact ⟨_, hmem, (extension_eq_iff hlower hne).1 rfl⟩

variable {m : Model}

theorem reads_of_loader {n : Node} (h : m.loader = .ok n) : m.family.Reads m.filename := by
  rw [reads_iff]
  unfold loader at h
  split at h <;> simp_all [Family.extensions]

theorem loader_error {cause : ResourceError} (h : m.loader = .error cause) :
    ¬ m.family.Reads m.filename ∧ cause = .unsupportedExtension m.family m.filename := by
  rw [reads_iff]
  unfold loader at h
  split at h
  -- The only case without a loader.
  case h_10 =>
    cases h
    refine ⟨?_, rfl⟩
    cases hfamily : m.family <;> simp_all [Family.extensions]
  all_goals cases h

end Model

end Renderflow
