import Renderflow.Job.Plan

/-!
# Generation

A new image, from its prompt alone or from another image.
-/

namespace Renderflow

structure GenerationRequest where
  prompt : String := ""
  negativePrompt : Option String := none
  /-- A model selection, over the configured one. -/
  model : Option String := none
  style : Option String := none
  seed : Option Int64 := none
  aspectRatio : Option String := none
  /-- An image spec. -/
  image : Option String := none
  mpSize : Option Float := none
  batchSize : Option UInt32 := none
  steps : Option UInt32 := none
  guidance : Option Float := none
  /-- The text before it was enhanced, for the record. -/
  originalPrompt : Option String := none
  enhancedPrompt : Option String := none

/-- What a generation starts from: an image, or an empty one of a given size. -/
inductive Start where
  | image (source : Image.Spec)
  | size (ratio : String) (mpSize : Float) (batch : UInt32)

namespace Start

def mode : Start → Mode
  | image _ => .img2img
  | size .. => .txt2img

def jobType : Start → JobType
  | image _ => .img2img
  | size .. => .txt2img

def label : Start → String
  | image _ => "Img2Img"
  | size .. => "Text2Img"

/-- The kind of the job in the names of its files. -/
def fileKind : Start → String
  | image _ => "GEN_I2I"
  | size .. => "GEN"

def denoise : Start → Float
  | image source => Image.denoise source.strength
  | size .. => 1.0

def bindings (s : Start) (spec : ModeSpec) (family : Family) :
    Except InternalError (List Binding) :=
  match s with
  | image source => spec.imageBindings source.location
  | size ratio mpSize batch => spec.latentBindings family ratio mpSize batch

/-- The part of the record that tells what the job starts from. -/
def record (s : Start) (d : JobDetails) : JobDetails :=
  match s with
  | image source =>
    { d with
      aspectRatio := some "From Image"
      batchSize := some 1
      imageSource := some source.location
      imageStrengthPercent := some source.strength }
  | size ratio mpSize batch =>
    { d with
      aspectRatio := some ratio
      mpSize := some mpSize
      batchSize := some batch }

end Start

namespace GenerationRequest

def start (r : GenerationRequest) (c : JobContext) : Except CompileError Start :=
  match r.image.bind Text.nonBlank? with
  | some spec => do
    let source ← Image.Spec.resolve c.world spec
    .ok (.image source)
  | none => do
    let ratio ← AspectRatio.resolve r.aspectRatio c.settings
    .ok (.size ratio (Megapixels.resolve r.mpSize c.settings)
      (Renderflow.batchSize r.batchSize c.settings))

def sampling (r : GenerationRequest) (c : JobContext) (family : Family) (denoise : Float) :
    Sampling :=
  { seed := r.seed.getD c.freshSeed
    steps := Sampling.resolveSteps r.steps c.settings family
    guidance := Sampling.resolveGuidance r.guidance c.settings family
    denoise }

/-- The requested negative prompt, else that of the family. -/
def negative (r : GenerationRequest) (c : JobContext) (family : Family) : String :=
  (r.negativePrompt.or (c.settings.family family).negativePrompt).getD ""

/-- The record of the job, without what it bound. -/
def details (r : GenerationRequest) (c : JobContext) (model : Model) (start : Start)
    (spec : ModeSpec) (style : ResolvedStyle) : JobDetails :=
  let family := model.family
  let sampling := r.sampling c family start.denoise
  start.record
    { jobId := c.jobId
      jobType := start.jobType
      prompt := some r.prompt
      originalPrompt := r.originalPrompt
      enhancedPrompt := r.enhancedPrompt
      negativePrompt := spec.recordedNegative (r.negative c family)
      seed := some sampling.seed
      steps := some sampling.steps
      guidance := some sampling.guidance
      denoise := some sampling.denoise
      style := some style.name
      selectedModel := some model.selection
      modelUsed := some model.filename
      family := some family
      styleWarning := style.warning
      modelWarning := availabilityWarning c.settings model
      inferenceWarning := model.inferenceWarning }

def plan (r : GenerationRequest) (c : JobContext) : Except CompileError Plan := do
  let model ← selectedModel r.model c.settings
  let family := model.family
  let start ← r.start c
  let spec ← modeSpec family start.mode
  let style ← ResolvedStyle.resolve c.styles (requestedStyle r.style c.settings family) family
  let template ← spec.graph
  let loaders ← spec.modelBindings model
  let second ← spec.secondaryBindings family c.settings.wanLowNoiseUnet
  let lora ← spec.loraBindings family
  let samplers ← spec.samplerBindings template (r.sampling c family start.denoise)
  let source ← start.bindings spec family
  .ok
    { template
      bindings :=
        loaders ++ second ++ lora ++ spec.fluxClipBindings family c.settings ++ samplers ++
          source ++ spec.promptBindings r.prompt (r.negative c family) ++
          spec.styleBindings style ++
          spec.outputBindings
            (OutputPath.stem c.settings.outputs.generations start.fileKind c.jobId none)
      details := r.details c model start spec style
      message := "Prompt prepared for job " ++ c.jobId ++ " (" ++ family.tag ++ " " ++
        start.label ++ ")." }

def compile (r : GenerationRequest) (c : JobContext) : Except CompileError Compiled := do
  (← r.plan c).compile

end GenerationRequest

end Renderflow
