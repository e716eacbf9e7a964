import Renderflow.Family
import Renderflow.Json.Decode

/-!
# Job details

The record of a compiled job. Follow-up jobs read it back as the description of the job
that their image comes from, so its JSON form holds everything it says.
-/

namespace Renderflow

inductive JobType where
  | txt2img
  | img2img
  | variation
  | upscale
  | kontextEdit
  | qwenImageEdit
  | wanAnimation
  deriving DecidableEq, Repr

namespace JobType

def all : List JobType :=
  [txt2img, img2img, variation, upscale, kontextEdit, qwenImageEdit, wanAnimation]

def key : JobType → String
  | txt2img => "txt2img"
  | img2img => "img2img"
  | variation => "variation"
  | upscale => "upscale"
  | kontextEdit => "kontext_edit"
  | qwenImageEdit => "qwen_image_edit"
  | wanAnimation => "wan_animation"

end JobType

structure JobDetails where
  jobId : String := ""
  jobType : JobType := .txt2img
  prompt : Option String := none
  originalPrompt : Option String := none
  enhancedPrompt : Option String := none
  negativePrompt : Option String := none
  seed : Option Int64 := none
  steps : Option UInt32 := none
  guidance : Option Float := none
  style : Option String := none
  denoise : Option Float := none
  selectedModel : Option String := none
  modelUsed : Option String := none
  family : Option Family := none
  upscaleModel : Option String := none
  aspectRatio : Option String := none
  width : Option UInt32 := none
  height : Option UInt32 := none
  mpSize : Option Float := none
  batchSize : Option UInt32 := none
  imageSource : Option String := none
  imageSources : Option (List String) := none
  imageStrengthPercent : Option UInt8 := none
  sourceJobId : Option String := none
  imageIndex : Option UInt32 := none
  variationStrength : Option VariationStrength := none
  upscaleFactor : Option Float := none
  motionProfile : Option String := none
  animationResolution : Option String := none
  animationFrames : Option UInt32 := none
  animationPrompt : Option String := none
  enhancerUsed : Option Bool := none
  enhancerError : Option String := none
  styleWarning : Option String := none
  modelWarning : Option String := none
  inferenceWarning : Option String := none
  /-- What the job bound, by node and input. -/
  parametersUsed : Table Json := .empty

namespace JobDetails

/-- The prompt that a follow-up job takes: the enhanced one, the one before the enhancement,
or the one that was bound, whichever is the first that is not blank. -/
def bestPrompt? (d : JobDetails) : Option String :=
  [d.enhancedPrompt, d.originalPrompt, d.prompt].findSome? fun p => p.bind Text.nonBlank?

/-- What the user is told about the job, in the order in which it is noticed. -/
def warnings (d : JobDetails) : List String :=
  [d.inferenceWarning, d.modelWarning, d.styleWarning].filterMap id

/-! ## Details as JSON -/

/-- The case that a value names. -/
def caseOfJson? {α : Type} (all : List α) (key : α → String) (j : Json) : Option α := do
  let name ← j.asCase?
  all.find? fun a => key a == name

def typeOfJson? : Json → Option JobType := caseOfJson? JobType.all JobType.key

/-- Family keys are matched exactly here. -/
def familyOfJson? : Json → Option Family := caseOfJson? Family.all Family.key

def strengthOfJson? : Json → Option VariationStrength :=
  caseOfJson? VariationStrength.all VariationStrength.key

def fieldNames : List String :=
  ["job_id", "type", "prompt", "original_prompt", "enhanced_prompt", "negative_prompt", "seed",
    "steps", "guidance", "style", "denoise", "selected_model", "model_used", "family",
    "upscale_model", "aspect_ratio", "width", "height", "mp_size", "batch_size", "image_source",
    "image_sources", "img_strength_percent", "source_job_id", "image_index",
    "variation_strength", "upscale_factor", "motion_profile", "animation_resolution",
    "animation_frames", "animation_prompt", "enhancer_used", "enhancer_error", "style_warning",
    "model_warning", "inference_warning", "parameters_used"]

/-- The fields of the record, each with its value if it has one. -/
def fields (d : JobDetails) : List (String × Option Json) :=
  [ ("job_id", some (.str d.jobId)),
    ("type", some (.str d.jobType.key)),
    ("prompt", d.prompt.map .str),
    ("original_prompt", d.originalPrompt.map .str),
    ("enhanced_prompt", d.enhancedPrompt.map .str),
    ("negative_prompt", d.negativePrompt.map .str),
    ("seed", d.seed.map fun n => .int n.toInt),
    ("steps", d.steps.map fun n => .int n.toNat),
    ("guidance", d.guidance.map .ofFloat),
    ("style", d.style.map .str),
    ("denoise", d.denoise.map .ofFloat),
    ("selected_model", d.selectedModel.map .str),
    ("model_used", d.modelUsed.map .str),
    ("family", d.family.map fun f => .str f.key),
    ("upscale_model", d.upscaleModel.map .str),
    ("aspect_ratio", d.aspectRatio.map .str),
    ("width", d.width.map fun n => .int n.toNat),
    ("height", d.height.map fun n => .int n.toNat),
    ("mp_size", d.mpSize.map .ofFloat),
    ("batch_size", d.batchSize.map fun n => .int n.toNat),
    ("image_source", d.imageSource.map .str),
    ("image_sources", d.imageSources.map .strings),
    ("img_strength_percent", d.imageStrengthPercent.map fun n => .int n.toNat),
    ("source_job_id", d.sourceJobId.map .str),
    ("image_index", d.imageIndex.map fun n => .int n.toNat),
    ("variation_strength", d.variationStrength.map fun v => .str v.key),
    ("upscale_factor", d.upscaleFactor.map .ofFloat),
    ("motion_profile", d.motionProfile.map .str),
    ("animation_resolution", d.animationResolution.map .str),
    ("animation_frames", d.animationFrames.map fun n => .int n.toNat),
    ("animation_prompt", d.animationPrompt.map .str),
    ("enhancer_used", d.enhancerUsed.map .bool),
    ("enhancer_error", d.enhancerError.map .str),
    ("style_warning", d.styleWarning.map .str),
    ("model_warning", d.modelWarning.map .str),
    ("inference_warning", d.inferenceWarning.map .str),
    ("parameters_used",
      if d.parametersUsed.isEmpty then none else some (.obj d.parametersUsed.entries)) ]

def toJson (d : JobDetails) : Json :=
  .ofFields d.fields

def ofJson? (j : Json) : Option JobDetails := do
  let f ← j.fieldsOf? fieldNames 0
  pure
    { jobId := ← f.default "job_id" "" Json.asString?
      jobType := ← f.default "type" .txt2img typeOfJson?
      prompt := ← f.optional "prompt" Json.asString?
      originalPrompt := ← f.optional "original_prompt" Json.asString?
      enhancedPrompt := ← f.optional "enhanced_prompt" Json.asString?
      negativePrompt := ← f.optional "negative_prompt" Json.asString?
      seed := ← f.optional "seed" Json.asInt64?
      steps := ← f.optional "steps" Json.asUInt32?
      guidance := ← f.optional "guidance" Json.asFloat?
      style := ← f.optional "style" Json.asString?
      denoise := ← f.optional "denoise" Json.asFloat?
      selectedModel := ← f.optional "selected_model" Json.asString?
      modelUsed := ← f.optional "model_used" Json.asString?
      family := ← f.optional "family" familyOfJson?
      upscaleModel := ← f.optional "upscale_model" Json.asString?
      aspectRatio := ← f.optional "aspect_ratio" Json.asString?
      width := ← f.optional "width" Json.asUInt32?
      height := ← f.optional "height" Json.asUInt32?
      mpSize := ← f.optional "mp_size" Json.asFloat?
      batchSize := ← f.optional "batch_size" Json.asUInt32?
      imageSource := ← f.optional "image_source" Json.asString?
      imageSources := ← f.optional "image_sources" Json.asStrings?
      imageStrengthPercent := ← f.optional "img_strength_percent" Json.asUInt8?
      sourceJobId := ← f.optional "source_job_id" Json.asString?
      imageIndex := ← f.optional "image_index" Json.asUInt32?
      variationStrength := ← f.optional "variation_strength" strengthOfJson?
      upscaleFactor := ← f.optional "upscale_factor" Json.asFloat?
      motionProfile := ← f.optional "motion_profile" Json.asString?
      animationResolution := ← f.optional "animation_resolution" Json.asString?
      animationFrames := ← f.optional "animation_frames" Json.asUInt32?
      animationPrompt := ← f.optional "animation_prompt" Json.asString?
      enhancerUsed := ← f.optional "enhancer_used" Json.asBool?
      enhancerError := ← f.optional "enhancer_error" Json.asString?
      styleWarning := ← f.optional "style_warning" Json.asString?
      modelWarning := ← f.optional "model_warning" Json.asString?
      inferenceWarning := ← f.optional "inference_warning" Json.asString?
      parametersUsed := ← f.default "parameters_used" .empty
        (Json.asTable? fun v => some v.canonical) }

end JobDetails

end Renderflow
