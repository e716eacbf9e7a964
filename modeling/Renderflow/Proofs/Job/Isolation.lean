import Renderflow.Proofs.Job.Ids

/-!
# Families are isolated in the settings

A job looks up what the settings hold for its own family and what they hold for all of them. What
belongs to other families does not show in it.
-/

namespace Renderflow

/-- Settings that agree for the jobs on a family: in what all jobs share and in what belongs to the
family. The second stage and the animations belong to WAN; the edits and the pairs of text encoders
belong to Flux. -/
structure Settings.AgreeFor (family : Family) (s s' : Settings) : Prop where
  own : s'.family family = s.family family
  selectedModel : s'.selectedModel = s.selectedModel
  defaultAspectRatio : s'.defaultAspectRatio = s.defaultAspectRatio
  defaultMpSize : s'.defaultMpSize = s.defaultMpSize
  defaultBatchSize : s'.defaultBatchSize = s.defaultBatchSize
  upscaleModel : s'.upscaleModel = s.upscaleModel
  upscaleFactor : s'.upscaleFactor = s.upscaleFactor
  vae : s'.vae = s.vae
  outputs : s'.outputs = s.outputs
  unets : s'.available.unet = s.available.unet
  checkpoints : s'.available.checkpoint = s.available.checkpoint
  vaes : s'.available.vae = s.available.vae
  wanLowNoiseUnet : family = .wan → s'.wanLowNoiseUnet = s.wanLowNoiseUnet
  wanAnimation : family = .wan → s'.wanAnimation = s.wanAnimation
  kontextModel : family = .flux → s'.kontextModel = s.kontextModel
  kontextGuidance : family = .flux → s'.kontextGuidance = s.kontextGuidance
  kontextSteps : family = .flux → s'.kontextSteps = s.kontextSteps
  kontextMpSize : family = .flux → s'.kontextMpSize = s.kontextMpSize
  fluxClipT5 : family = .flux → s'.fluxClipT5 = s.fluxClipT5
  fluxClipL : family = .flux → s'.fluxClipL = s.fluxClipL
  clips : family = .flux → s'.available.clip = s.available.clip

/-! ## Lookups -/

namespace Settings.AgreeFor

variable {family : Family} {s s' : Settings} (h : s.AgreeFor family s')

include h

theorem selectedModel_eq (requested : Option String) :
    Renderflow.selectedModel requested s' = Renderflow.selectedModel requested s := by
  simp only [Renderflow.selectedModel, h.selectedModel]

theorem resolveSteps_eq (requested : Option UInt32) :
    Sampling.resolveSteps requested s' family = Sampling.resolveSteps requested s family := by
  simp only [Sampling.resolveSteps, h.own]

theorem resolveGuidance_eq (requested : Option Float) :
    Sampling.resolveGuidance requested s' family = Sampling.resolveGuidance requested s family := by
  simp only [Sampling.resolveGuidance, h.own]

theorem requestedStyle_eq (requested : Option String) :
    requestedStyle requested s' family = requestedStyle requested s family := by
  simp only [requestedStyle, h.own]

theorem aspectRatio_eq (requested : Option String) :
    AspectRatio.resolve requested s' = AspectRatio.resolve requested s := by
  simp only [AspectRatio.resolve, AspectRatio.configured, h.defaultAspectRatio]

theorem megapixels_eq (requested : Option Float) :
    Megapixels.resolve requested s' = Megapixels.resolve requested s := by
  simp only [Megapixels.resolve, h.defaultMpSize]

theorem batchSize_eq (requested : Option UInt32) :
    batchSize requested s' = batchSize requested s := by
  simp only [batchSize, h.defaultBatchSize]

theorem availabilityWarning_eq (m : Model) :
    availabilityWarning s' m = availabilityWarning s m := by
  have hknown : s'.available.forFamily m.family = s.available.forFamily m.family := by
    cases m.family <;> first | exact h.unets | exact h.checkpoints
  simp only [availabilityWarning, hknown]

/-- The text encoders of Flux are looked up for the jobs on Flux. -/
theorem fluxClipBindings_eq (spec : ModeSpec) :
    spec.fluxClipBindings family s' = spec.fluxClipBindings family s := by
  cases family with
  | flux =>
    simp only [ModeSpec.fluxClipBindings, AvailableModels.hasClip, h.fluxClipT5 rfl,
      h.fluxClipL rfl, h.clips rfl]
    rfl
  | sdxl | qwen | wan => rfl

/-- The second stage is looked up for the jobs on WAN. -/
theorem secondaryBindings_eq {mode : Mode} {spec : ModeSpec}
    (hspec : modeSpec family mode = .ok spec) :
    spec.secondaryBindings family s'.wanLowNoiseUnet =
      spec.secondaryBindings family s.wanLowNoiseUnet := by
  by_cases hwan : family = .wan
  · rw [h.wanLowNoiseUnet hwan]
  · simp only [ModeSpec.secondaryBindings, ModeSpec.secondaryLoader_eq_none hspec hwan]

end Settings.AgreeFor

/-! ## Requests -/

/-- A follow-up looks its style up in the book alone. -/
theorem FollowUp.styleName_settings (c : JobContext) (settings : Settings)
    (requested : Option String) (source : Option JobDetails) :
    styleName { c with settings } requested source = styleName c requested source :=
  rfl

section

variable {c : JobContext} {family : Family} {settings' : Settings}
  (h : c.settings.AgreeFor family settings')

include h

theorem GenerationRequest.start_agreeFor (r : GenerationRequest) :
    r.start { c with settings := settings' } = r.start c := by
  simp only [start, h.aspectRatio_eq, h.megapixels_eq, h.batchSize_eq]

theorem GenerationRequest.plan_agreeFor {r : GenerationRequest}
    (hfamily : (selectedModel r.model c.settings).map (·.family) = .ok family) :
    r.plan { c with settings := settings' } = r.plan c := by
  unfold plan
  simp only [h.selectedModel_eq, start_agreeFor h]
  refine bind_congr_of_ok fun model hmodel => bind_congr_of_ok fun start _ => ?_
  rw [CompileError.resource_eq_ok_iff] at hmodel
  obtain rfl := family_of_selectedModel hfamily hmodel
  refine bind_congr_of_ok fun s hspec => ?_
  rw [CompileError.validation_eq_ok_iff] at hspec
  simp only [h.requestedStyle_eq, h.secondaryBindings_eq hspec, h.fluxClipBindings_eq, sampling,
    negative, details, h.resolveSteps_eq, h.resolveGuidance_eq, h.own, h.outputs,
    h.availabilityWarning_eq]

theorem VariationRequest.plan_agreeFor {r : VariationRequest}
    (hfamily : (selectedModel r.model c.settings).map (·.family) = .ok family) :
    r.plan { c with settings := settings' } = r.plan c := by
  unfold plan
  simp only [h.selectedModel_eq]
  refine bind_congr_of_ok fun model hmodel => ?_
  rw [CompileError.resource_eq_ok_iff] at hmodel
  obtain rfl := family_of_selectedModel hfamily hmodel
  refine bind_congr_of_ok fun s hspec => ?_
  rw [CompileError.validation_eq_ok_iff] at hspec
  simp only [FollowUp.styleName_settings, h.secondaryBindings_eq hspec, h.fluxClipBindings_eq,
    sampling, negative, details, h.resolveSteps_eq, h.resolveGuidance_eq, h.own, h.outputs,
    h.availabilityWarning_eq]

theorem UpscaleRequest.plan_agreeFor {r : UpscaleRequest}
    (hfamily : (selectedModel r.model c.settings).map (·.family) = .ok family) :
    r.plan { c with settings := settings' } = r.plan c := by
  unfold plan
  simp only [h.selectedModel_eq]
  refine bind_congr_of_ok fun model hmodel => ?_
  rw [CompileError.resource_eq_ok_iff] at hmodel
  obtain rfl := family_of_selectedModel hfamily hmodel
  simp only [FollowUp.styleName_settings, h.fluxClipBindings_eq, negative, upscaleModel,
    factor, details, h.own, h.outputs, h.upscaleModel, h.upscaleFactor, h.availabilityWarning_eq]

namespace EditRequest

theorem editFamily_agreeFor (r : EditRequest) :
    r.editFamily { c with settings := settings' } = r.editFamily c := by
  simp only [editFamily, h.selectedModel_eq]

omit h in
theorem fluxPlan_agreeFor (h : c.settings.AgreeFor .flux settings') (r : EditRequest) :
    r.fluxPlan { c with settings := settings' } = r.fluxPlan c := by
  simp only [fluxPlan, validImages, fluxModel, aspectRatioOf, fluxSampling, fluxDetails,
    h.aspectRatio_eq, h.fluxClipBindings_eq, h.vae, h.outputs, h.kontextModel rfl,
    h.kontextSteps rfl, h.kontextGuidance rfl, h.kontextMpSize rfl]

omit h in
theorem qwenPlan_agreeFor (h : c.settings.AgreeFor .qwen settings') (r : EditRequest) :
    r.qwenPlan { c with settings := settings' } = r.qwenPlan c := by
  have hown : settings'.qwen = c.settings.qwen := h.own
  simp only [qwenPlan, validImages, qwenModel, qwenSampling, qwenNegative, qwenDetails,
    h.selectedModel_eq, h.resolveSteps_eq, h.resolveGuidance_eq, h.availabilityWarning_eq, hown,
    h.outputs]

theorem plan_agreeFor {r : EditRequest} (hfamily : r.editFamily c = .ok family) :
    r.plan { c with settings := settings' } = r.plan c := by
  unfold plan
  rw [editFamily_agreeFor h]
  refine bind_congr_of_ok fun family' hedit => ?_
  rw [CompileError.resource_eq_ok_iff] at hedit
  obtain rfl : family' = family := Except.ok.inj (hedit.symm.trans hfamily)
  cases family' with
  | flux => simp only [fluxPlan_agreeFor h]
  | qwen => simp only [qwenPlan_agreeFor h]
  | sdxl | wan => simp only

end EditRequest

omit h in
open AnimationRequest in
theorem AnimationRequest.plan_agreeFor (h : c.settings.AgreeFor .wan settings')
    (r : AnimationRequest) (reply : Option EnhancerReply) :
    r.plan { c with settings := settings' } reply = r.plan c reply := by
  have hown : settings'.wan = c.settings.wan := h.own
  have hhigh : r.highNoise? settings' = r.highNoise? c.settings := by
    simp only [highNoise?, configuredModel?, h.selectedModel, hown]
  simp only [plan, scene, highNoiseBindings, lowNoise?, sampling, negative, boundPrompt, details,
    hhigh, h.resolveSteps_eq, h.resolveGuidance_eq, h.outputs, hown, h.wanLowNoiseUnet rfl,
    h.wanAnimation rfl]

end

namespace JobRequest

variable {r : JobRequest} {c : JobContext} {family : Family} {settings' : Settings}

theorem plan_agreeFor (hfamily : r.family c = .ok family)
    (h : c.settings.AgreeFor family settings') (reply : Option EnhancerReply) :
    r.plan { c with settings := settings' } reply = r.plan c reply := by
  cases r with
  | generation r => exact GenerationRequest.plan_agreeFor h hfamily
  | variation r => exact VariationRequest.plan_agreeFor h hfamily
  | upscale r => exact UpscaleRequest.plan_agreeFor h hfamily
  | edit r => exact EditRequest.plan_agreeFor h hfamily
  | animation r =>
    obtain rfl : .wan = family := Except.ok.inj hfamily
    exact AnimationRequest.plan_agreeFor h r reply

/-- Two runs of a request with one seed, with settings that agree for the family it runs on, end
alike: with the same error, or with jobs on this family that are one but for their ids. -/
theorem compile_agreeFor (hfamily : r.family c = .ok family) (hseed : r.seed?.isSome)
    (h : c.settings.AgreeFor family settings') (reply : Option EnhancerReply)
    (word word' : BitVec 32) (freshSeed : Int64) :
    Lockstep (fun x x' => x.details.family = some family ∧
        x.SameUpToId r.mode (freshJobId word) (freshJobId word') x')
      (r.compile { c with jobId := freshJobId word } reply)
      (r.compile { c with settings := settings', jobId := freshJobId word', freshSeed } reply) := by
  have hfamily' : ∀ jobId freshSeed, r.family { c with jobId, freshSeed } = .ok family := by
    cases r <;> exact fun _ _ => hfamily
  rw [compile_eq r { c with settings := settings', jobId := freshJobId word', freshSeed },
    plan_agreeFor (c := { c with jobId := freshJobId word', freshSeed }) (hfamily' _ _) h,
    ← compile_eq]
  exact (compile_sameUpToId hseed c reply word word' freshSeed).mono fun x x' hx _ hsame =>
    ⟨family_of_compile (hfamily' _ _) hx, hsame⟩

/-- The settings of the sample context with what belongs to other families than SDXL changed. -/
def crowdedSettings : Settings :=
  { sampleContext.settings with
    flux := { steps := some 4, negativePrompt := some "fog" }
    qwen := { model := some "qwen.gguf" }
    wan := { guidance := some 2.0, defaultStyle := some "film" }
    wanLowNoiseUnet := none
    wanAnimation := { duration := some 9 }
    kontextModel := none
    kontextSteps := 3
    fluxClipT5 := some "t5.safetensors"
    fluxClipL := some "l.safetensors"
    available := { clip := ["t5.safetensors", "l.safetensors"] } }

/-- A generation on SDXL is compiled to the same job with these settings. -/
theorem compile_agreeFor_sdxl :
    ∃ x x', (generation { prompt := "a lighthouse", seed := some 5 }).compile
        { sampleContext with jobId := freshJobId 0xbeef } = .ok x ∧
      (generation { prompt := "a lighthouse", seed := some 5 }).compile
        { sampleContext with
          settings := crowdedSettings
          jobId := freshJobId 0xcafe
          freshSeed := 9 } = .ok x' ∧
      x.details.family = some .sdxl ∧
      x.SameUpToId .txt2img (freshJobId 0xbeef) (freshJobId 0xcafe) x' := by
  obtain ⟨x, hx⟩ := exists_compile_of_plan (generation { prompt := "a lighthouse", seed := some 5 })
    { sampleContext with jobId := freshJobId 0xbeef } none (by decide +kernel)
  have hagree : sampleContext.settings.AgreeFor .sdxl crowdedSettings := by
    constructor <;> first | rfl | exact fun h => absurd h (by decide)
  have hfamily : (generation { prompt := "a lighthouse", seed := some 5 }).family sampleContext =
      .ok .sdxl := by decide
  have hsame := compile_agreeFor hfamily rfl hagree none 0xbeef 0xcafe 9
  rw [hx] at hsame
  obtain ⟨x', hx', hfamily, hjobs⟩ := hsame.exists_ok
  exact ⟨x, x', hx, hx', hfamily, hjobs⟩

end JobRequest

end Renderflow
