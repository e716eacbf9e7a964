import Renderflow.Family
import Renderflow.Json.Decode

/-!
# Settings

What the jobs take from the configuration. Every field has a default, so settings may be
given in part.
-/

namespace Renderflow

/-- Defaults of the jobs on one family. -/
structure FamilySettings where
  steps : Option UInt32 := none
  guidance : Option Float := none
  defaultStyle : Option String := none
  negativePrompt : Option String := none
  /-- The model of jobs that belong to the family, such as edits. -/
  model : Option String := none

/-- Defaults of animations. -/
structure AnimationSettings where
  motionProfile : Option String := none
  resolution : Option String := none
  duration : Option UInt32 := none
  lowNoiseUnet : Option String := none
  clip : Option String := none
  visionClip : Option String := none
  vae : Option String := none
  shift : Option Float := none

/-- The output directory of each kind of job. A blank one stands for that of the engine. -/
structure OutputDirs where
  generations : String := "output/TENOSAI-BOT/GENERATIONS"
  variations : String := "output/TENOSAI-BOT/VARIATIONS"
  upscales : String := "output/TENOSAI-BOT/UPSCALES"
  edits : String := "output/TENOSAI-BOT/EDITS"
  animations : String := "output/TENOSAI-BOT/ANIMATIONS"

/-- The files that the engine is known to have. They decide warnings only. -/
structure AvailableModels where
  unet : List String := []
  checkpoint : List String := []
  clip : List String := []
  vae : List String := []

structure Settings where
  /-- The model of a job that names none. -/
  selectedModel : Option String := none
  flux : FamilySettings := {}
  sdxl : FamilySettings := {}
  qwen : FamilySettings := {}
  wan : FamilySettings := {}
  /-- The model of the second stage of WAN jobs. -/
  wanLowNoiseUnet : Option String := none
  defaultAspectRatio : Option String := none
  defaultMpSize : Float := 1.0
  defaultBatchSize : UInt32 := 1
  upscaleModel : Option String := none
  upscaleFactor : Float := 1.85
  kontextModel : Option String := none
  kontextGuidance : Float := 3.0
  kontextSteps : UInt32 := 32
  kontextMpSize : Float := 1.15
  vae : Option String := none
  fluxClipT5 : Option String := none
  fluxClipL : Option String := none
  wanAnimation : AnimationSettings := {}
  outputs : OutputDirs := {}
  available : AvailableModels := {}

namespace AvailableModels

/-- The list that a model of a family is looked up in. -/
def forFamily (a : AvailableModels) : Family → List String
  | .flux | .wan => a.unet
  | .sdxl | .qwen => a.checkpoint

def hasClip (a : AvailableModels) (name : String) : Bool :=
  a.clip.any fun c => Text.sameLetters c name

end AvailableModels

def Settings.family (s : Settings) : Family → FamilySettings
  | .flux => s.flux
  | .sdxl => s.sdxl
  | .qwen => s.qwen
  | .wan => s.wan

/-! ## Settings as JSON -/

namespace FamilySettings

def toJson (s : FamilySettings) : Json :=
  .ofFields
    [ ("steps", s.steps.map fun n => .int n.toNat),
      ("guidance", s.guidance.map .ofFloat),
      ("default_style", s.defaultStyle.map .str),
      ("negative_prompt", s.negativePrompt.map .str),
      ("model", s.model.map .str) ]

def ofJson? (j : Json) : Option FamilySettings := do
  let f ← j.fieldsOf? ["steps", "guidance", "default_style", "negative_prompt", "model"] 0
  pure
    { steps := ← f.optional "steps" Json.asUInt32?
      guidance := ← f.optional "guidance" Json.asFloat?
      defaultStyle := ← f.optional "default_style" Json.asString?
      negativePrompt := ← f.optional "negative_prompt" Json.asString?
      model := ← f.optional "model" Json.asString? }

end FamilySettings

namespace AnimationSettings

def toJson (s : AnimationSettings) : Json :=
  .ofFields
    [ ("motion_profile", s.motionProfile.map .str),
      ("resolution", s.resolution.map .str),
      ("duration", s.duration.map fun n => .int n.toNat),
      ("low_noise_unet", s.lowNoiseUnet.map .str),
      ("clip", s.clip.map .str),
      ("vision_clip", s.visionClip.map .str),
      ("vae", s.vae.map .str),
      ("shift", s.shift.map .ofFloat) ]

def fieldNames : List String :=
  ["motion_profile", "resolution", "duration", "low_noise_unet", "clip", "vision_clip", "vae",
    "shift"]

def ofJson? (j : Json) : Option AnimationSettings := do
  let f ← j.fieldsOf? fieldNames 0
  pure
    { motionProfile := ← f.optional "motion_profile" Json.asString?
      resolution := ← f.optional "resolution" Json.asString?
      duration := ← f.optional "duration" Json.asUInt32?
      lowNoiseUnet := ← f.optional "low_noise_unet" Json.asString?
      clip := ← f.optional "clip" Json.asString?
      visionClip := ← f.optional "vision_clip" Json.asString?
      vae := ← f.optional "vae" Json.asString?
      shift := ← f.optional "shift" Json.asFloat? }

end AnimationSettings

namespace OutputDirs

def toJson (d : OutputDirs) : Json :=
  .obj
    [ ("generations", .str d.generations),
      ("variations", .str d.variations),
      ("upscales", .str d.upscales),
      ("edits", .str d.edits),
      ("animations", .str d.animations) ]

def ofJson? (j : Json) : Option OutputDirs := do
  let f ← j.fieldsOf? ["generations", "variations", "upscales", "edits", "animations"] 0
  let base : OutputDirs := {}
  pure
    { generations := ← f.default "generations" base.generations Json.asString?
      variations := ← f.default "variations" base.variations Json.asString?
      upscales := ← f.default "upscales" base.upscales Json.asString?
      edits := ← f.default "edits" base.edits Json.asString?
      animations := ← f.default "animations" base.animations Json.asString? }

end OutputDirs

namespace AvailableModels

def toJson (a : AvailableModels) : Json :=
  .obj
    [ ("unet", .strings a.unet),
      ("checkpoint", .strings a.checkpoint),
      ("clip", .strings a.clip),
      ("vae", .strings a.vae) ]

def ofJson? (j : Json) : Option AvailableModels := do
  let f ← j.fieldsOf? ["unet", "checkpoint", "clip", "vae"] 0
  pure
    { unet := ← f.default "unet" [] Json.asStrings?
      checkpoint := ← f.default "checkpoint" [] Json.asStrings?
      clip := ← f.default "clip" [] Json.asStrings?
      vae := ← f.default "vae" [] Json.asStrings? }

end AvailableModels

namespace Settings

def toJson (s : Settings) : Json :=
  .ofFields
    [ ("selected_model", s.selectedModel.map .str),
      ("flux", some s.flux.toJson),
      ("sdxl", some s.sdxl.toJson),
      ("qwen", some s.qwen.toJson),
      ("wan", some s.wan.toJson),
      ("wan_low_noise_unet", s.wanLowNoiseUnet.map .str),
      ("default_aspect_ratio", s.defaultAspectRatio.map .str),
      ("default_mp_size", some (.ofFloat s.defaultMpSize)),
      ("default_batch_size", some (.int s.defaultBatchSize.toNat)),
      ("upscale_model", s.upscaleModel.map .str),
      ("upscale_factor", some (.ofFloat s.upscaleFactor)),
      ("kontext_model", s.kontextModel.map .str),
      ("kontext_guidance", some (.ofFloat s.kontextGuidance)),
      ("kontext_steps", some (.int s.kontextSteps.toNat)),
      ("kontext_mp_size", some (.ofFloat s.kontextMpSize)),
      ("vae", s.vae.map .str),
      ("flux_clip_t5", s.fluxClipT5.map .str),
      ("flux_clip_l", s.fluxClipL.map .str),
      ("wan_animation", some s.wanAnimation.toJson),
      ("outputs", some s.outputs.toJson),
      ("available", some s.available.toJson) ]

def fieldNames : List String :=
  ["selected_model", "flux", "sdxl", "qwen", "wan", "wan_low_noise_unet", "default_aspect_ratio",
    "default_mp_size", "default_batch_size", "upscale_model", "upscale_factor", "kontext_model",
    "kontext_guidance", "kontext_steps", "kontext_mp_size", "vae", "flux_clip_t5", "flux_clip_l",
    "wan_animation", "outputs", "available"]

def ofJson? (j : Json) : Option Settings := do
  let f ← j.fieldsOf? fieldNames 0
  let base : Settings := {}
  pure
    { selectedModel := ← f.optional "selected_model" Json.asString?
      flux := ← f.default "flux" {} FamilySettings.ofJson?
      sdxl := ← f.default "sdxl" {} FamilySettings.ofJson?
      qwen := ← f.default "qwen" {} FamilySettings.ofJson?
      wan := ← f.default "wan" {} FamilySettings.ofJson?
      wanLowNoiseUnet := ← f.optional "wan_low_noise_unet" Json.asString?
      defaultAspectRatio := ← f.optional "default_aspect_ratio" Json.asString?
      defaultMpSize := ← f.default "default_mp_size" base.defaultMpSize Json.asFloat?
      defaultBatchSize := ← f.default "default_batch_size" base.defaultBatchSize Json.asUInt32?
      upscaleModel := ← f.optional "upscale_model" Json.asString?
      upscaleFactor := ← f.default "upscale_factor" base.upscaleFactor Json.asFloat?
      kontextModel := ← f.optional "kontext_model" Json.asString?
      kontextGuidance := ← f.default "kontext_guidance" base.kontextGuidance Json.asFloat?
      kontextSteps := ← f.default "kontext_steps" base.kontextSteps Json.asUInt32?
      kontextMpSize := ← f.default "kontext_mp_size" base.kontextMpSize Json.asFloat?
      vae := ← f.optional "vae" Json.asString?
      fluxClipT5 := ← f.optional "flux_clip_t5" Json.asString?
      fluxClipL := ← f.optional "flux_clip_l" Json.asString?
      wanAnimation := ← f.default "wan_animation" {} AnimationSettings.ofJson?
      outputs := ← f.default "outputs" {} OutputDirs.ofJson?
      available := ← f.default "available" {} AvailableModels.ofJson? }

end Settings

end Renderflow
