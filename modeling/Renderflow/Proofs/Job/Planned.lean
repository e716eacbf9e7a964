import Renderflow.Job.Request
import Renderflow.Proofs.Error

/-!
# What a planned request has settled

A request is planned exactly when each part of its plan is settled: its model, what it
starts from, its style, the template and the bindings of every role.
-/

namespace Renderflow

open CompileError

inductive GenerationRequest.Planned (r : GenerationRequest) (c : JobContext) : Plan → Prop where
  | intro {model : Model} {start : Start} {s : ModeSpec} {style : ResolvedStyle} {template : Graph}
      {loaders second lora samplers source : List Binding}
      (hmodel : selectedModel r.model c.settings = .ok model)
      (hstart : r.start c = .ok start)
      (hspec : modeSpec model.family start.mode = .ok s)
      (hstyle : ResolvedStyle.resolve c.styles (requestedStyle r.style c.settings model.family)
        model.family = .ok style)
      (htemplate : s.graph = .ok template)
      (hloaders : s.modelBindings model = .ok loaders)
      (hsecond : s.secondaryBindings model.family c.settings.wanLowNoiseUnet = .ok second)
      (hlora : s.loraBindings model.family = .ok lora)
      (hsamplers : s.samplerBindings template (r.sampling c model.family start.denoise) =
        .ok samplers)
      (hsource : start.bindings s model.family = .ok source) :
      Planned r c
        { template
          bindings :=
            loaders ++ second ++ lora ++ s.fluxClipBindings model.family c.settings ++ samplers ++
              source ++ s.promptBindings r.prompt (r.negative c model.family) ++
              s.styleBindings style ++
              s.outputBindings
                (OutputPath.stem c.settings.outputs.generations start.fileKind c.jobId none)
          details := r.details c model start s style
          message := "Prompt prepared for job " ++ c.jobId ++ " (" ++ model.family.tag ++ " " ++
            start.label ++ ")." }

theorem GenerationRequest.plan_eq_ok_iff {r : GenerationRequest} {c : JobContext} {p : Plan} :
    r.plan c = .ok p ↔ r.Planned c p := by
  unfold plan
  simp only [bind_eq_ok_iff, validation_eq_ok_iff, resource_eq_ok_iff, internal_eq_ok_iff,
    graph_eq_ok_iff, Except.ok.injEq]
  constructor
  · rintro ⟨model, hmodel, start, hstart, s, hspec, style, hstyle, template, htemplate, loaders,
      hloaders, second, hsecond, lora, hlora, samplers, hsamplers, source, hsource, rfl⟩
    exact .intro hmodel hstart hspec hstyle htemplate hloaders hsecond hlora hsamplers hsource
  · rintro ⟨hmodel, hstart, hspec, hstyle, htemplate, hloaders, hsecond, hlora, hsamplers, hsource⟩
    exact ⟨_, hmodel, _, hstart, _, hspec, _, hstyle, _, htemplate, _, hloaders, _, hsecond,
      _, hlora, _, hsamplers, _, hsource, rfl⟩

inductive VariationRequest.Planned (r : VariationRequest) (c : JobContext) : Plan → Prop where
  | intro {model : Model} {s : ModeSpec} {style : ResolvedStyle} {template : Graph}
      {loaders second lora samplers image : List Binding}
      (hmodel : selectedModel r.model c.settings = .ok model)
      (hspec : modeSpec model.family r.strength.mode = .ok s)
      (hstyle : ResolvedStyle.resolve c.styles (FollowUp.styleName c r.style r.source)
        model.family = .ok style)
      (htemplate : s.graph = .ok template)
      (hloaders : s.modelBindings model = .ok loaders)
      (hsecond : s.secondaryBindings model.family c.settings.wanLowNoiseUnet = .ok second)
      (hlora : s.loraBindings model.family = .ok lora)
      (hsamplers : s.samplerBindings template (r.sampling c model.family) = .ok samplers)
      (himage : s.imageBindings r.location = .ok image) :
      Planned r c
        { template
          bindings :=
            loaders ++ second ++ lora ++ s.fluxClipBindings model.family c.settings ++ samplers ++
              image ++ s.promptBindings r.boundPrompt (r.negative c model.family) ++
              s.styleBindings style ++
              s.outputBindings
                (OutputPath.stem c.settings.outputs.variations "GEN_VAR" c.jobId
                  (some (r.strength.letter ++ "_" ++ FollowUp.imageLabel r.imageIndex r.source)))
          details := r.details c model s style
          message := label r.strength ++ " variation (" ++ model.family.tag ++
            ") prepared for image #" ++ toString (FollowUp.imageIndex r.imageIndex).toNat ++ "." }

theorem VariationRequest.plan_eq_ok_iff {r : VariationRequest} {c : JobContext} {p : Plan} :
    r.plan c = .ok p ↔ r.Planned c p := by
  unfold plan
  simp only [bind_eq_ok_iff, validation_eq_ok_iff, resource_eq_ok_iff, internal_eq_ok_iff,
    graph_eq_ok_iff, Except.ok.injEq]
  constructor
  · rintro ⟨model, hmodel, s, hspec, style, hstyle, template, htemplate, loaders, hloaders,
      second, hsecond, lora, hlora, samplers, hsamplers, image, himage, rfl⟩
    exact .intro hmodel hspec hstyle htemplate hloaders hsecond hlora hsamplers himage
  · rintro ⟨hmodel, hspec, hstyle, htemplate, hloaders, hsecond, hlora, hsamplers, himage⟩
    exact ⟨_, hmodel, _, hspec, _, hstyle, _, htemplate, _, hloaders, _, hsecond, _, hlora,
      _, hsamplers, _, himage, rfl⟩

inductive UpscaleRequest.Planned (r : UpscaleRequest) (c : JobContext) : Plan → Prop where
  | intro {model : Model} {s : ModeSpec} {style : ResolvedStyle} {upscaler helper : String}
      {template : Graph} {loaders lora image : List Binding}
      (hmodel : selectedModel r.model c.settings = .ok model)
      (hspec : modeSpec model.family .upscale = .ok s)
      (hstyle : ResolvedStyle.resolve c.styles (FollowUp.styleName c r.style r.source)
        model.family = .ok style)
      (hupscaler : s.require "upscale model loader" s.upscaleLoader = .ok upscaler)
      (hhelper : s.require "upscale helper" s.latent = .ok helper)
      (htemplate : s.graph = .ok template)
      (hloaders : s.modelBindings model = .ok loaders)
      (hlora : s.loraBindings model.family = .ok lora)
      (himage : s.imageBindings r.location = .ok image) :
      Planned r c
        { template
          bindings :=
            loaders ++ lora ++ s.fluxClipBindings model.family c.settings ++
              [.set s.sampler "seed" (.int (r.seed.getD c.freshSeed)),
                .set upscaler "model_name" (.str (upscaleModel c.settings)),
                .set helper "aspect_ratio" (.str (aspectRatio r.source)),
                .set helper "upscale_by" (.float (factor c.settings)),
                .set helper "model_type" (.str model.family.tag)] ++
              image ++ s.promptBindings r.boundPrompt (r.negative c model.family) ++
              s.styleBindings style ++
              s.outputBindings
                (OutputPath.stem c.settings.outputs.upscales "GEN_UP" c.jobId
                  (some (FollowUp.imageLabel r.imageIndex r.source)))
          details := r.details c model s style template
          message := "Upscaling image #" ++ toString (FollowUp.imageIndex r.imageIndex).toNat ++
            " by " ++ Decimal.fixed 2 (factor c.settings) ++ "x (workflow: " ++ model.family.tag ++
            "). Seed: " ++ toString (r.seed.getD c.freshSeed).toInt ++ ", Style: " ++ style.name ++
            "." }

theorem UpscaleRequest.plan_eq_ok_iff {r : UpscaleRequest} {c : JobContext} {p : Plan} :
    r.plan c = .ok p ↔ r.Planned c p := by
  unfold plan
  simp only [bind_eq_ok_iff, validation_eq_ok_iff, resource_eq_ok_iff, internal_eq_ok_iff,
    Except.ok.injEq]
  constructor
  · rintro ⟨model, hmodel, s, hspec, style, hstyle, upscaler, hupscaler, helper, hhelper, template,
      htemplate, loaders, hloaders, lora, hlora, image, himage, rfl⟩
    exact .intro hmodel hspec hstyle hupscaler hhelper htemplate hloaders hlora himage
  · rintro ⟨hmodel, hspec, hstyle, hupscaler, hhelper, htemplate, hloaders, hlora, himage⟩
    exact ⟨_, hmodel, _, hspec, _, hstyle, _, hupscaler, _, hhelper, _, htemplate, _, hloaders,
      _, hlora, _, himage, rfl⟩

namespace EditRequest

inductive FluxPlanned (r : EditRequest) (c : JobContext) : Plan → Prop where
  | intro {s : ModeSpec} {images : List String} {model ratio vaeLoader : String} {template : Graph}
      {first : Node} {samplers latent : List Binding}
      (hspec : modeSpec .flux .edit = .ok s)
      (hcount : r.checkCount 1 4 "1 to 4" = .ok ())
      (himages : r.validImages c = .ok images)
      (hmodel : fluxModel c.settings = .ok model)
      (hratio : r.aspectRatioOf c.settings = .ok ratio)
      (hvae : s.require "VAE loader" s.vaeLoader = .ok vaeLoader)
      (htemplate : s.graph = .ok template)
      (hfirst : template.node "load_image_1" = .ok first)
      (hsamplers : s.samplerBindings template (r.fluxSampling c) = .ok samplers)
      (hlatent : s.latentBindings .flux ratio c.settings.kontextMpSize 1 = .ok latent) :
      FluxPlanned r c
        { template
          bindings :=
            Stitch.bindings first r.images.length ++
              [.loader s.modelLoader (fluxLoader model) "unet_name" model,
                .set vaeLoader "vae_name"
                  (.str ((c.settings.vae.bind Text.nonBlank?).getD "ae.safetensors"))] ++
              s.fluxClipBindings .flux c.settings ++ Stitch.locationBindings images ++ samplers ++
              latent ++ s.promptBindings r.instruction "" ++
              s.outputBindings (OutputPath.stem c.settings.outputs.edits "EDIT" c.jobId r.suffix)
          details := r.fluxDetails c s images model ratio
          message := "Kontext edit job " ++ c.jobId ++ " prepared." }

theorem fluxPlan_eq_ok_iff {r : EditRequest} {c : JobContext} {p : Plan} :
    r.fluxPlan c = .ok p ↔ r.FluxPlanned c p := by
  unfold fluxPlan
  simp only [bind_eq_ok_iff, validation_eq_ok_iff, resource_eq_ok_iff, internal_eq_ok_iff,
    graph_eq_ok_iff, Except.ok.injEq]
  constructor
  · rintro ⟨s, hspec, _, hcount, images, himages, model, hmodel, ratio, hratio, vaeLoader, hvae,
      template, htemplate, first, hfirst, samplers, hsamplers, latent, hlatent, rfl⟩
    exact .intro hspec hcount himages hmodel hratio hvae htemplate hfirst hsamplers hlatent
  · rintro ⟨hspec, hcount, himages, hmodel, hratio, hvae, htemplate, hfirst, hsamplers, hlatent⟩
    exact ⟨_, hspec, (), hcount, _, himages, _, hmodel, _, hratio, _, hvae, _, htemplate,
      _, hfirst, _, hsamplers, _, hlatent, rfl⟩

inductive QwenPlanned (r : EditRequest) (c : JobContext) : Plan → Prop where
  | intro {s : ModeSpec} {images : List String} {model : Model} {template : Graph}
      {lora samplers image : List Binding}
      (hspec : modeSpec .qwen .edit = .ok s)
      (hcount : r.checkCount 1 1 "exactly 1" = .ok ())
      (himages : r.validImages c = .ok images)
      (hmodel : qwenModel c.settings = .ok model)
      (htemplate : s.graph = .ok template)
      (hlora : s.loraBindings .qwen = .ok lora)
      (hsamplers : s.samplerBindings template (r.qwenSampling c) = .ok samplers)
      (himage : s.imageBindings (images.headD "") = .ok image) :
      QwenPlanned r c
        { template
          bindings :=
            [.set s.modelLoader "ckpt_name" (.str model.filename)] ++ lora ++ samplers ++ image ++
              s.promptBindings (Text.trim r.instruction) (qwenNegative c.settings) ++
              s.styleBindings .off ++
              s.outputBindings
                (OutputPath.stem c.settings.outputs.edits "QWEN_EDIT" c.jobId r.suffix)
          details := r.qwenDetails c s images model
          message := "Qwen edit job " ++ c.jobId ++ " prepared." }

theorem qwenPlan_eq_ok_iff {r : EditRequest} {c : JobContext} {p : Plan} :
    r.qwenPlan c = .ok p ↔ r.QwenPlanned c p := by
  unfold qwenPlan
  simp only [bind_eq_ok_iff, validation_eq_ok_iff, resource_eq_ok_iff, internal_eq_ok_iff,
    graph_eq_ok_iff, Except.ok.injEq]
  constructor
  · rintro ⟨s, hspec, _, hcount, images, himages, model, hmodel, template, htemplate, lora, hlora,
      samplers, hsamplers, image, himage, rfl⟩
    exact .intro hspec hcount himages hmodel htemplate hlora hsamplers himage
  · rintro ⟨hspec, hcount, himages, hmodel, htemplate, hlora, hsamplers, himage⟩
    exact ⟨_, hspec, (), hcount, _, himages, _, hmodel, _, htemplate, _, hlora, _, hsamplers,
      _, himage, rfl⟩

/-- An edit is planned by its family, which is Flux or Qwen. -/
theorem plan_eq_ok_iff {r : EditRequest} {c : JobContext} {p : Plan} :
    r.plan c = .ok p ↔
      r.editFamily c = .ok .flux ∧ r.FluxPlanned c p ∨
        r.editFamily c = .ok .qwen ∧ r.QwenPlanned c p := by
  unfold plan
  simp only [bind_eq_ok_iff, resource_eq_ok_iff]
  constructor
  · rintro ⟨family, hfamily, hplan⟩
    cases family with
    | flux => exact .inl ⟨hfamily, fluxPlan_eq_ok_iff.1 hplan⟩
    | qwen => exact .inr ⟨hfamily, qwenPlan_eq_ok_iff.1 hplan⟩
    | wan | sdxl => cases hplan
  · rintro (⟨hfamily, hplan⟩ | ⟨hfamily, hplan⟩)
    · exact ⟨.flux, hfamily, fluxPlan_eq_ok_iff.2 hplan⟩
    · exact ⟨.qwen, hfamily, qwenPlan_eq_ok_iff.2 hplan⟩

end EditRequest

open Animation in
inductive AnimationRequest.Planned (r : AnimationRequest) (c : JobContext)
    (reply : Option EnhancerReply) : Plan → Prop where
  | intro {s : ModeSpec} {video : String} {template : Graph}
      {first second image samplers : List Binding}
      (hspec : modeSpec .wan .animation = .ok s)
      (hvideo : s.require "image-to-video" s.latent = .ok video)
      (htemplate : s.graph = .ok template)
      (hfirst : r.highNoiseBindings c.settings s = .ok first)
      (hsecond : s.secondaryBindings .wan (lowNoise? c.settings) = .ok second)
      (himage : s.imageBindings r.location = .ok image)
      (hsamplers : s.samplerBindings template (r.sampling c) = .ok samplers) :
      Planned r c reply
        { template
          bindings :=
            first ++ second ++
              assetBindings s.clipLoader "clip_name"
                (firstAsset? [c.settings.wanAnimation.clip]) ++
              assetBindings (some "wan_i2v_vision_clip") "clip_name"
                (firstAsset? [c.settings.wanAnimation.visionClip]) ++
              assetBindings s.vaeLoader "vae_name" (firstAsset? [c.settings.wanAnimation.vae]) ++
              image ++
              s.promptBindings (r.boundPrompt c.settings reply) (r.negative c.settings) ++
              samplers ++ (r.scene c.settings).bindings video ++
              shiftBindings template c.settings.wanAnimation.shift ++
              s.outputBindings
                (OutputPath.stem c.settings.outputs.animations "WAN_ANIM" c.jobId none)
          details := r.details c reply s
          message := "WAN animation job " ++ c.jobId ++ " prepared (" ++
            toString (r.scene c.settings).frames.toNat ++ " frames)." }

theorem AnimationRequest.plan_eq_ok_iff {r : AnimationRequest} {c : JobContext}
    {reply : Option EnhancerReply} {p : Plan} :
    r.plan c reply = .ok p ↔ r.Planned c reply p := by
  unfold plan
  simp only [bind_eq_ok_iff, validation_eq_ok_iff, resource_eq_ok_iff, internal_eq_ok_iff,
    graph_eq_ok_iff, Except.ok.injEq]
  constructor
  · rintro ⟨s, hspec, video, hvideo, template, htemplate, first, hfirst, second, hsecond, image,
      himage, samplers, hsamplers, rfl⟩
    exact .intro hspec hvideo htemplate hfirst hsecond himage hsamplers
  · rintro ⟨hspec, hvideo, htemplate, hfirst, hsecond, himage, hsamplers⟩
    exact ⟨_, hspec, _, hvideo, _, htemplate, _, hfirst, _, hsecond, _, himage, _, hsamplers, rfl⟩

end Renderflow
