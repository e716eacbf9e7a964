import Renderflow.Proofs.Job.Compile
import Renderflow.Proofs.Job.Planned

/-!
# The family that a job runs on

The family of a job is known before the job is planned: it is that of the selected model, the one
that an edit asks for, or WAN. The family decides which roles the modes of its jobs lack.
-/

namespace Renderflow

namespace ModeSpec

variable {family : Family} {mode : Mode} {s : ModeSpec}

/-- The modes of a family have a node for the negative prompt exactly if the family takes one. -/
theorem isSome_negativePrompt (h : modeSpec family mode = .ok s) :
    s.negativePrompt.isSome = family.spec.supportsNegativePrompt := by
  have hmodes : ∀ s ∈ family.spec.modes,
      s.negativePrompt.isSome = family.spec.supportsNegativePrompt := by
    cases family <;> decide
  exact hmodes s (mem_modes_of_modeSpec h).1

/-- Only WAN has two stages. -/
theorem secondaryLoader_eq_none (h : modeSpec family mode = .ok s) (hfamily : family ≠ .wan) :
    s.secondaryLoader = none := by
  have hmodes : ∀ s ∈ family.spec.modes, s.secondaryLoader = none := by
    cases family <;> first | exact absurd rfl hfamily | decide
  exact hmodes s (mem_modes_of_modeSpec h).1

end ModeSpec

namespace JobRequest

/-- The family that a request runs on. -/
def family (c : JobContext) : JobRequest → Except ResourceError Family
  | generation r => (selectedModel r.model c.settings).map (·.family)
  | variation r => (selectedModel r.model c.settings).map (·.family)
  | upscale r => (selectedModel r.model c.settings).map (·.family)
  | edit r => r.editFamily c
  | animation _ => .ok .wan

end JobRequest

theorem family_of_selectedModel {requested : Option String} {settings : Settings} {family : Family}
    (h : (selectedModel requested settings).map (·.family) = .ok family) {m : Model}
    (hm : selectedModel requested settings = .ok m) : m.family = family := by
  rw [hm] at h
  exact Except.ok.inj h

namespace JobRequest

variable {r : JobRequest} {c : JobContext} {reply : Option EnhancerReply} {family : Family}

/-- An animation runs on WAN. -/
theorem family_of_mode (h : r.mode = .animation) : r.family c = .ok .wan := by
  cases r with
  | generation r =>
    simp only [mode] at h
    split at h <;> cases h
  | variation r =>
    cases hstrength : r.strength <;> simp [mode, hstrength, VariationStrength.mode] at h
  | upscale r => cases h
  | edit r => cases h
  | animation r => rfl

theorem family_of_plan (hfamily : r.family c = .ok family) {p : Plan}
    (hp : r.plan c reply = .ok p) : p.details.family = some family := by
  cases r with
  | generation r =>
    obtain @⟨model, start, _, _, _, _, _, _, _, _, hmodel, -⟩ :=
      GenerationRequest.plan_eq_ok_iff.1 hp
    rw [← family_of_selectedModel hfamily hmodel]
    cases start <;> rfl
  | variation r =>
    obtain ⟨hmodel, -⟩ := VariationRequest.plan_eq_ok_iff.1 hp
    rw [← family_of_selectedModel hfamily hmodel]
    rfl
  | upscale r =>
    obtain ⟨hmodel, -⟩ := UpscaleRequest.plan_eq_ok_iff.1 hp
    rw [← family_of_selectedModel hfamily hmodel]
    rfl
  | edit r =>
    rcases EditRequest.plan_eq_ok_iff.1 hp with ⟨hedit, hflux⟩ | ⟨hedit, hqwen⟩
    · obtain rfl : .flux = family := Except.ok.inj (hedit.symm.trans hfamily)
      exact hflux.family_eq
    · obtain rfl : .qwen = family := Except.ok.inj (hedit.symm.trans hfamily)
      exact hqwen.family_eq
  | animation r =>
    obtain rfl : .wan = family := Except.ok.inj hfamily
    obtain ⟨⟩ := AnimationRequest.plan_eq_ok_iff.1 hp
    rfl

/-- A compiled job records the family that its request runs on. -/
theorem family_of_compile (hfamily : r.family c = .ok family) {x : Compiled}
    (hx : r.compile c reply = .ok x) : x.details.family = some family := by
  obtain ⟨p, _, _, _, _, _, hp, -, -, hrecord⟩ := exists_plan_of_compile hx
  rw [hrecord]
  exact family_of_plan hfamily hp

/-- A compiled job conforms to a mode of the family that its request runs on. -/
theorem conforms_of_compile (hfamily : r.family c = .ok family) {x : Compiled}
    (hx : r.compile c reply = .ok x) :
    ∃ s l start, x.Conforms r.mode (r.extent c) family s l start := by
  obtain ⟨recorded, s, l, start, hconforms⟩ := (r.compile_delivers c reply).value x hx
  obtain rfl : family = recorded :=
    Option.some.inj ((family_of_compile hfamily hx).symm.trans hconforms.ofFamily)
  exact ⟨s, l, start, hconforms⟩

end JobRequest

end Renderflow
