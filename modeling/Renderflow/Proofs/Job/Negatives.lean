import Renderflow.Proofs.Job.Ids

/-!
# Negative prompts of Flux jobs

Flux has no negative conditioning. The modes of Flux drop the negative prompt of a request, of
the job its image comes from and of the settings, so none of these shows in a job on Flux.
-/

namespace Renderflow

/-- The settings with another negative prompt for the jobs on Flux. -/
def Settings.withFluxNegative (s : Settings) (negative : Option String) : Settings :=
  { s with flux := { s.flux with negativePrompt := negative } }

def JobDetails.withNegative (d : JobDetails) (negative : Option String) : JobDetails :=
  { d with negativePrompt := negative }

namespace JobRequest

/-- The request with another negative prompt and another one of its source job. -/
def withNegatives (requested inherited : Option String) : JobRequest → JobRequest
  | generation r => generation { r with negativePrompt := requested }
  | variation r =>
    variation
      { r with
        negativePrompt := requested
        source := r.source.map (·.withNegative inherited) }
  | upscale r => upscale { r with source := r.source.map (·.withNegative inherited) }
  | edit r => edit r
  | animation r => animation { r with source := r.source.withNegative inherited }

end JobRequest

theorem ModeSpec.negativePrompt_flux {mode : Mode} {s : ModeSpec}
    (h : modeSpec .flux mode = .ok s) : s.negativePrompt = none := by
  simpa [Family.spec, Catalog.flux] using isSome_negativePrompt h

namespace ModeSpec

variable {s : ModeSpec} (h : s.negativePrompt = none)

include h

theorem promptBindings_of_none (positive negative : String) :
    s.promptBindings positive negative = [.set s.positivePrompt "text" (.str positive)] := by
  simp [promptBindings, h, ifRole]

theorem recordedNegative_of_none (negative : String) : s.recordedNegative negative = none := by
  simp [recordedNegative, h]

end ModeSpec

section

variable {c : JobContext} {requested inherited configured : Option String}

theorem GenerationRequest.plan_withNegatives {r : GenerationRequest}
    (hfamily : (selectedModel r.model c.settings).map (·.family) = .ok .flux) :
    GenerationRequest.plan { r with negativePrompt := requested }
        { c with settings := c.settings.withFluxNegative configured } = r.plan c := by
  unfold plan
  refine bind_congr_of_ok fun model hmodel => bind_congr_of_ok fun start _ => ?_
  rw [CompileError.resource_eq_ok_iff] at hmodel
  have hflux := family_of_selectedModel hfamily hmodel
  refine bind_congr_of_ok fun s hspec => ?_
  rw [CompileError.validation_eq_ok_iff, hflux] at hspec
  have hnone := ModeSpec.negativePrompt_flux hspec
  simp only [hflux, details, ModeSpec.promptBindings_of_none hnone,
    ModeSpec.recordedNegative_of_none hnone]
  rfl

theorem VariationRequest.plan_withNegatives {r : VariationRequest}
    (hfamily : (selectedModel r.model c.settings).map (·.family) = .ok .flux) :
    VariationRequest.plan
        { r with
          negativePrompt := requested
          source := r.source.map (·.withNegative inherited) }
        { c with settings := c.settings.withFluxNegative configured } = r.plan c := by
  unfold plan
  refine bind_congr_of_ok fun model hmodel => ?_
  rw [CompileError.resource_eq_ok_iff] at hmodel
  have hflux := family_of_selectedModel hfamily hmodel
  refine bind_congr_of_ok fun s hspec => ?_
  rw [CompileError.validation_eq_ok_iff, hflux] at hspec
  have hnone := ModeSpec.negativePrompt_flux hspec
  simp only [hflux, details, boundPrompt, ModeSpec.promptBindings_of_none hnone,
    ModeSpec.recordedNegative_of_none hnone]
  cases r.source <;> rfl

theorem UpscaleRequest.plan_withNegatives {r : UpscaleRequest}
    (hfamily : (selectedModel r.model c.settings).map (·.family) = .ok .flux) :
    UpscaleRequest.plan { r with source := r.source.map (·.withNegative inherited) }
        { c with settings := c.settings.withFluxNegative configured } = r.plan c := by
  unfold plan
  refine bind_congr_of_ok fun model hmodel => ?_
  rw [CompileError.resource_eq_ok_iff] at hmodel
  have hflux := family_of_selectedModel hfamily hmodel
  refine bind_congr_of_ok fun s hspec => ?_
  rw [CompileError.validation_eq_ok_iff, hflux] at hspec
  have hnone := ModeSpec.negativePrompt_flux hspec
  simp only [hflux, details, boundPrompt, ModeSpec.promptBindings_of_none hnone,
    ModeSpec.recordedNegative_of_none hnone]
  cases r.source <;> rfl

theorem EditRequest.plan_withFluxNegative {r : EditRequest} (hfamily : r.editFamily c = .ok .flux) :
    r.plan { c with settings := c.settings.withFluxNegative configured } = r.plan c := by
  unfold plan
  refine bind_congr_of_ok fun family hedit => ?_
  rw [CompileError.resource_eq_ok_iff] at hedit
  obtain rfl : family = .flux := Except.ok.inj (hedit.symm.trans hfamily)
  rfl

end

namespace JobRequest

variable {r : JobRequest} {c : JobContext}

theorem plan_withNegatives (hfamily : r.family c = .ok .flux)
    (requested inherited configured : Option String) :
    (r.withNegatives requested inherited).plan
        { c with settings := c.settings.withFluxNegative configured } none = r.plan c none := by
  cases r with
  | generation r => exact GenerationRequest.plan_withNegatives hfamily
  | variation r => exact VariationRequest.plan_withNegatives hfamily
  | upscale r => exact UpscaleRequest.plan_withNegatives hfamily
  | edit r => exact EditRequest.plan_withFluxNegative hfamily
  | animation r => cases hfamily

/-- Two runs of a job on Flux with one seed, whose inputs differ in negative prompts alone, end
alike: with the same error, or with jobs that are one but for their ids and record no negative
prompt. -/
theorem compile_withNegatives (hfamily : r.family c = .ok .flux) (hseed : r.seed?.isSome)
    (requested inherited configured : Option String) (word word' : BitVec 32) (freshSeed : Int64) :
    Lockstep (fun x x' => x.SameUpToId r.mode (freshJobId word) (freshJobId word') x' ∧
        x.details.negativePrompt = none ∧ x'.details.negativePrompt = none)
      (r.compile { c with jobId := freshJobId word })
      ((r.withNegatives requested inherited).compile
        { c with
          settings := c.settings.withFluxNegative configured
          jobId := freshJobId word'
          freshSeed }) := by
  have hfamily' : ∀ jobId freshSeed, r.family { c with jobId, freshSeed } = .ok .flux := by
    cases r <;> exact fun _ _ => hfamily
  have hdropped : ∀ (jobId : String) (freshSeed : Int64) (x : Compiled),
      r.compile { c with jobId, freshSeed } = .ok x → x.details.negativePrompt = none := by
    intro jobId freshSeed x hx
    obtain ⟨s, _, _, hconforms⟩ := conforms_of_compile (hfamily' jobId freshSeed) hx
    exact hconforms.reports.prompts.noNegative.1 (ModeSpec.negativePrompt_flux hconforms.spec)
  rw [compile_eq (r.withNegatives requested inherited),
    plan_withNegatives (c := { c with jobId := freshJobId word', freshSeed }) (hfamily' _ _),
    ← compile_eq]
  exact (compile_sameUpToId hseed c none word word' freshSeed).mono fun x x' hx hx' hsame =>
    ⟨hsame, hdropped _ _ x hx, hdropped _ _ x' hx'⟩

/-- A variation on Flux of an image that was made without fog. -/
def clearVariation : JobRequest :=
  variation
    { source := some { prompt := some "a lighthouse", negativePrompt := some "fog" }
      image := "a.png"
      model := some "flux: dev.gguf"
      seed := some 5 }

/-- With other negative prompts from every side, the variation is compiled to the same job. -/
theorem compile_withNegatives_variation :
    ∃ x x', clearVariation.compile { sampleContext with jobId := freshJobId 0xbeef } = .ok x ∧
      (clearVariation.withNegatives (some "rain") (some "snow")).compile
        { sampleContext with
          settings := sampleContext.settings.withFluxNegative (some "hail")
          jobId := freshJobId 0xcafe
          freshSeed := 9 } = .ok x' ∧
      x.SameUpToId .weakVariation (freshJobId 0xbeef) (freshJobId 0xcafe) x' ∧
      x.details.negativePrompt = none ∧ x'.details.negativePrompt = none := by
  obtain ⟨x, hx⟩ := exists_compile_of_plan clearVariation
    { sampleContext with jobId := freshJobId 0xbeef } none (by decide)
  have hsame := compile_withNegatives (r := clearVariation) (c := sampleContext) (by decide)
    rfl (some "rain") (some "snow") (some "hail") 0xbeef 0xcafe 9
  rw [hx] at hsame
  obtain ⟨x', hx', hjobs⟩ := hsame.exists_ok
  exact ⟨x, x', hx, hx', hjobs⟩

end JobRequest

end Renderflow
