import Renderflow.Proofs.Job.Compile
import Renderflow.Proofs.Job.Planned

/-!
# Warnings about the model of a job

A job that looks its model up warns exactly when the files of the engine are known for its family
and its model is none of them. Animations and Flux edits do not look their models up.
-/

namespace Renderflow

namespace AvailableModels

/-- Some files are known, and a file is none of them, in whatever case they are written. -/
def Misses (known : List String) (filename : String) : Prop :=
  known ≠ [] ∧ ∀ name ∈ known, ¬ Text.sameLetters name filename

/-- The engine lacks a file for a family: it misses the file among its diffusion models if the
family is Flux or WAN, and among its checkpoints if it is SDXL or Qwen. -/
def Lacks (a : AvailableModels) (family : Family) (filename : String) : Prop :=
  match family with
  | .flux | .wan => Misses a.unet filename
  | .sdxl | .qwen => Misses a.checkpoint filename

instance (known : List String) (filename : String) : Decidable (Misses known filename) :=
  inferInstanceAs (Decidable (_ ∧ _))

instance (a : AvailableModels) (family : Family) (filename : String) :
    Decidable (a.Lacks family filename) :=
  match family with
  | .flux | .wan => inferInstanceAs (Decidable (Misses a.unet filename))
  | .sdxl | .qwen => inferInstanceAs (Decidable (Misses a.checkpoint filename))

theorem lacks_iff {a : AvailableModels} {family : Family} {filename : String} :
    a.Lacks family filename ↔ Misses (a.forFamily family) filename := by
  cases family <;> rfl

end AvailableModels

theorem isSome_availabilityWarning_iff {s : Settings} {m : Model} :
    (availabilityWarning s m).isSome ↔ s.available.Lacks m.family m.filename := by
  rw [AvailableModels.lacks_iff]
  unfold availabilityWarning AvailableModels.Misses
  by_cases hknown : s.available.forFamily m.family = [] <;> simp [hknown]

namespace JobRequest

variable {r : JobRequest} {c : JobContext} {reply : Option EnhancerReply}

/-- The model that a planned job records, and the warning about it. -/
theorem modelWarning_of_plan {p : Plan} (hp : r.plan c reply = .ok p) {family : Family}
    (hfamily : p.details.family = some family) :
    if r.mode = .animation ∨ r.mode = .edit ∧ family = .flux then p.details.modelWarning = none
    else ∃ m : Model, m.family = family ∧ p.details.modelUsed = some m.filename ∧
      p.details.modelWarning = availabilityWarning c.settings m := by
  cases r with
  | generation r =>
    obtain @⟨model, start, _⟩ := GenerationRequest.plan_eq_ok_iff.1 hp
    have hmode : (generation r).mode ≠ .animation ∧ (generation r).mode ≠ .edit := by
      simp only [mode]
      split <;> simp
    rw [if_neg (by simp [hmode])]
    cases start <;> exact ⟨model, Option.some.inj hfamily, rfl, rfl⟩
  | variation r =>
    obtain @⟨model, _⟩ := VariationRequest.plan_eq_ok_iff.1 hp
    have hmode : r.strength.mode ≠ .animation ∧ r.strength.mode ≠ .edit := by
      cases r.strength <;> simp [VariationStrength.mode]
    rw [if_neg (by simp [mode, hmode])]
    exact ⟨model, Option.some.inj hfamily, rfl, rfl⟩
  | upscale r =>
    obtain @⟨model, _⟩ := UpscaleRequest.plan_eq_ok_iff.1 hp
    rw [if_neg (by simp [mode])]
    exact ⟨model, Option.some.inj hfamily, rfl, rfl⟩
  | edit r =>
    rcases EditRequest.plan_eq_ok_iff.1 hp with ⟨-, hflux⟩ | ⟨-, hqwen⟩
    · obtain rfl : .flux = family := Option.some.inj (hflux.family_eq.symm.trans hfamily)
      obtain ⟨⟩ := hflux
      rw [if_pos (.inr ⟨rfl, rfl⟩)]
      rfl
    · obtain rfl : .qwen = family := Option.some.inj (hqwen.family_eq.symm.trans hfamily)
      obtain @⟨_, _, model, _, _, _, _, -, -, -, hmodel, -⟩ := hqwen
      rw [if_neg (by simp [mode])]
      exact ⟨model, EditRequest.family_of_qwenModel hmodel, rfl, rfl⟩
  | animation r =>
    obtain ⟨⟩ := AnimationRequest.plan_eq_ok_iff.1 hp
    rw [if_pos (.inl rfl)]
    rfl

/-- A compiled job warns about its model exactly if the engine lacks it. Animations and Flux edits
never warn, although they record the model that they load. -/
theorem compile_modelWarning {x : Compiled} (h : r.compile c reply = .ok x) :
    ∃ family, x.details.family = some family ∧
      if r.mode = .animation ∨ r.mode = .edit ∧ family = .flux then x.details.modelWarning = none
      else ∃ filename, x.details.modelUsed = some filename ∧
        (x.details.modelWarning.isSome ↔ c.settings.available.Lacks family filename) := by
  obtain ⟨p, family, _, _, _, notes, hp, hfollows, -, hrecord⟩ := exists_plan_of_compile h
  have hwarning := modelWarning_of_plan hp hfollows.ofFamily
  rw [hrecord]
  refine ⟨family, hfollows.ofFamily, ?_⟩
  split at hwarning
  case isTrue hskips =>
    rw [if_pos hskips]
    exact hwarning
  case isFalse hlooks =>
    obtain ⟨m, rfl, hused, hwarns⟩ := hwarning
    rw [if_neg hlooks]
    refine ⟨m.filename, hused, ?_⟩
    rw [← isSome_availabilityWarning_iff, ← hwarns]

/-- A context whose engine has a diffusion model and a checkpoint other than the ones in use. -/
def otherModels : JobContext :=
  { sampleContext with
    settings :=
      { sampleContext.settings with
        available := { unet := ["other.gguf"], checkpoint := ["other.safetensors"] } } }

/-- A generation with a checkpoint that the engine lacks is compiled. -/
theorem compile_modelWarning_generation :
    ∃ x, (generation {}).compile otherModels = .ok x ∧
      ∃ family, x.details.family = some family ∧
        if Mode.txt2img = .animation ∨ Mode.txt2img = .edit ∧ family = .flux then
          x.details.modelWarning = none
        else ∃ filename, x.details.modelUsed = some filename ∧
          (x.details.modelWarning.isSome ↔
            otherModels.settings.available.Lacks family filename) := by
  obtain ⟨x, hx⟩ := exists_compile_of_plan (generation {}) otherModels none (by decide +kernel)
  exact ⟨x, hx, compile_modelWarning hx⟩

/-- Not every job that records a model which the engine lacks warns about it: a Flux edit does
not. -/
theorem not_forall_lacking_model_warned :
    ¬ ∀ (r : JobRequest) (c : JobContext) (reply : Option EnhancerReply) (x : Compiled)
      (family : Family) (filename : String), r.compile c reply = .ok x →
      x.details.family = some family → x.details.modelUsed = some filename →
        (x.details.modelWarning.isSome ↔ c.settings.available.Lacks family filename) := by
  intro hwarned
  obtain ⟨x, hx⟩ := exists_compile_of_plan (edit { family := some .flux, images := ["a.png"] })
    otherModels none (by decide)
  have hlacks := hwarned _ _ _ x .flux "kontext.gguf" hx
  obtain ⟨p, _, _, _, _, notes, hp, -, -, hrecord⟩ := exists_plan_of_compile hx
  rw [hrecord] at hlacks
  rcases EditRequest.plan_eq_ok_iff.1 hp with ⟨-, hflux⟩ | ⟨hqwen, -⟩
  case inr => cases hqwen
  obtain @⟨_, _, model, _, _, _, _, _, _, -, -, -, hmodel, -⟩ := hflux
  have hset : EditRequest.fluxModel otherModels.settings = .ok "kontext.gguf" := rfl
  obtain rfl : model = "kontext.gguf" := Except.ok.inj (hmodel.symm.trans hset)
  simpa [EditRequest.fluxDetails] using (hlacks rfl rfl).2 (by decide)

end JobRequest

end Renderflow
