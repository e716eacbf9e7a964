import Renderflow.Proofs.Selection

/-!
# Canonical selections

A selection that resolves to a model is as good as the selection of the model, which names the
family in front of the file. White space around a selection, its key and its file does not matter,
nor does the case of the key.
-/

namespace Renderflow.Model

variable {text key rest filename : String} {family : Family}

/-- The key of a family, in letters of any case, has neither white space nor a colon in it. -/
theorem of_mem_key (h : Text.sameLetters family.key key) :
    ∀ c ∈ key.toList, Text.isBlank c = false ∧ c ≠ ':' := by
  have hall : ∀ d ∈ (Text.lower family.key).toList, Text.isBlank d = false ∧ d ≠ ':' := by
    cases family <;> simp [Text.lower, Family.key, Text.isBlank]
  intro c hc
  have hmem : c.toLower ∈ (Text.lower family.key).toList := by
    rw [Text.sameLetters_iff.1 h, Text.lower, String.toList_ofList]
    exact List.mem_map_of_mem hc
  obtain ⟨hblank, hcolon⟩ := hall c.toLower hmem
  rw [Text.isBlank_toLower] at hblank
  refine ⟨hblank, ?_⟩
  rintro rfl
  exact hcolon rfl

/-- A key and a file are named with white space around them too, and the key in any case. -/
theorem names_of_isPadded {padded : String} (hkey : Text.sameLetters family.key key)
    (hpadded : Text.IsPadded padded key) (hrest : Text.IsPadded rest filename) :
    Names (padded ++ ":" ++ rest) family (Text.trim filename) := by
  have hletters := of_mem_key hkey
  have htrimmed : Text.IsTrimmed key :=
    ⟨fun c hc => (hletters c (List.mem_of_mem_head? hc)).1,
      fun c hc => (hletters c (List.mem_of_getLast? hc)).1⟩
  refine ⟨padded, rest, rfl, fun hcolon => ?_, ?_, (Text.trim_eq_of_isPadded hrest).symm⟩
  · obtain ⟨before, after, htext, hbefore, hafter⟩ := hpadded
    rw [htext, List.mem_append, List.mem_append] at hcolon
    rcases hcolon with hmem | hmem | hmem
    · exact absurd (hbefore ':' hmem) (by decide)
    · exact (hletters ':' hmem).2 rfl
    · exact absurd (hafter ':' hmem) (by decide)
  · rwa [Text.trim_eq_of_isPadded hpadded, Text.trim_eq_self htrimmed]

theorem names_key (family : Family) (filename : String) :
    Names (family.key ++ ":" ++ filename) family (Text.trim filename) := by
  have hself : ∀ s : String, Text.IsPadded s s := fun s => ⟨[], [], by simp, by simp, by simp⟩
  exact names_of_isPadded (Text.sameLetters_iff.2 rfl) (hself family.key) (hself filename)

theorem resolve_of_isPadded {padded : String} (h : Text.IsPadded padded text) :
    resolve padded = resolve text := by
  rw [resolve, resolve, Text.trim_eq_of_isPadded h]

/-- The selection of a model has the loader that the model was resolved with. -/
theorem loaderGraph_selection {m : Model} (h : resolve text = .ok m) (node : String) :
    loaderGraph m.selection node = loaderGraph text node := by
  have hloader : loader { m with inferred := false } = m.loader := rfl
  simp only [loaderGraph, resolve_selection h, h, hloader, bind, Except.bind]

/-- A selection that resolves to a model has the outcome of the selection of the model. White space
around it does not count and, where it names a family, neither does white space around the key and
the file or the case of the key. -/
theorem resolve_canonical :
    (∀ text m, resolve text = .ok m →
      resolve m.selection = .ok { m with inferred := false } ∧
        ∀ node, loaderGraph m.selection node = loaderGraph text node) ∧
      (∀ text padded, Text.IsPadded padded text → resolve padded = resolve text) ∧
      ∀ (family : Family) (key padded rest filename : String),
        Text.sameLetters family.key key → Text.IsPadded padded key → Text.IsPadded rest filename →
          resolve (padded ++ ":" ++ rest) = resolve (family.key ++ ":" ++ filename) ∧
            (Text.IsTrimmed filename → filename ≠ "" →
              resolve (family.key ++ ":" ++ filename) = .ok ⟨family, filename, false⟩) := by
  refine ⟨fun text m h => ⟨resolve_selection h, loaderGraph_selection h⟩,
    fun text padded => resolve_of_isPadded, ?_⟩
  intro family key padded rest filename hkey hpadded hrest
  have hplain := resolve_of_names (names_key family filename)
  refine ⟨(resolve_of_names (names_of_isPadded hkey hpadded hrest)).trans hplain.symm,
    fun htrimmed hne => ?_⟩
  rw [hplain, Text.trim_eq_self htrimmed]
  simp [hne]

theorem resolve_canonical_drive :
    (resolve "D:\\wan: b.safetensors" = .ok ⟨.wan, "D:\\wan: b.safetensors", true⟩ ∧
      resolve "WAN: D:\\wan: b.safetensors" = .ok ⟨.wan, "D:\\wan: b.safetensors", false⟩) ∧
      (Text.IsPadded "\tsdxl:a.ckpt " "sdxl:a.ckpt" ∧
        resolve "\tsdxl:a.ckpt " = resolve "sdxl:a.ckpt") ∧
      (Text.sameLetters Family.qwen.key "qWen" ∧ Text.IsPadded " qWen " "qWen" ∧
        Text.IsPadded "  c:\\b.ckpt" "c:\\b.ckpt" ∧ Text.IsTrimmed "c:\\b.ckpt" ∧
        resolve (" qWen " ++ ":" ++ "  c:\\b.ckpt") = resolve ("qwen" ++ ":" ++ "c:\\b.ckpt") ∧
        resolve ("qwen" ++ ":" ++ "c:\\b.ckpt") = .ok ⟨.qwen, "c:\\b.ckpt", false⟩) := by
  have hresolve :
      resolve "D:\\wan: b.safetensors" = .ok ⟨.wan, "D:\\wan: b.safetensors", true⟩ := by
    decide +kernel
  have hpadded : Text.IsPadded "\tsdxl:a.ckpt " "sdxl:a.ckpt" :=
    ⟨['\t'], [' '], by simp [Text.isBlank]⟩
  have hletters : Text.sameLetters Family.qwen.key "qWen" := by decide
  have hkey : Text.IsPadded " qWen " "qWen" := ⟨[' '], [' '], by simp [Text.isBlank]⟩
  have hrest : Text.IsPadded "  c:\\b.ckpt" "c:\\b.ckpt" :=
    ⟨[' ', ' '], [], by simp [Text.isBlank]⟩
  have htrimmed : Text.IsTrimmed "c:\\b.ckpt" := by constructor <;> simp [Text.isBlank]
  obtain ⟨hplain, hnamed⟩ := resolve_canonical.2.2 .qwen "qWen" _ _ _ hletters hkey hrest
  exact ⟨⟨hresolve, (resolve_canonical.1 _ _ hresolve).1⟩,
    ⟨hpadded, resolve_canonical.2.1 _ _ hpadded⟩,
    hletters, hkey, hrest, htrimmed, hplain, hnamed htrimmed (by decide)⟩

end Renderflow.Model
