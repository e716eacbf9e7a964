import Renderflow.Job.FollowUp

/-!
# Variation

Another rendering of one image of a finished job.
-/

namespace Renderflow

structure VariationRequest where
  source : Option JobDetails := none
  /-- Where the image is. -/
  image : String := ""
  /-- The number of the image in its batch, from one. -/
  imageIndex : UInt32 := 0
  strength : VariationStrength := .weak
  /-- An edited prompt. A blank one is meant to be blank. -/
  prompt : Option String := none
  negativePrompt : Option String := none
  style : Option String := none
  model : Option String := none
  seed : Option Int64 := none
  steps : Option UInt32 := none
  guidance : Option Float := none

namespace VariationRequest

/-- The edited prompt, else the best one of the source job. No prompt is empty. -/
def boundPrompt (r : VariationRequest) : String :=
  match r.prompt with
  | some edited => if (Text.nonBlank? edited).isSome then edited else " "
  | none => (r.source.bind JobDetails.bestPrompt?).getD " "

def negative (r : VariationRequest) (c : JobContext) (family : Family) : String :=
  (r.negativePrompt.or ((r.source.bind (·.negativePrompt)).or
    (c.settings.family family).negativePrompt)).getD ""

def sampling (r : VariationRequest) (c : JobContext) (family : Family) : Sampling :=
  { seed := r.seed.getD c.freshSeed
    steps := Sampling.resolveSteps r.steps c.settings family
    guidance := Sampling.resolveGuidance r.guidance c.settings family
    denoise := r.strength.denoise }

def label : VariationStrength → String
  | .weak => "Weak"
  | .strong => "Strong"

def location (r : VariationRequest) : String :=
  OutputPath.normalize (Text.trim r.image)

/-- The record of the job, without what it bound. -/
def details (r : VariationRequest) (c : JobContext) (model : Model) (spec : ModeSpec)
    (style : ResolvedStyle) : JobDetails :=
  let family := model.family
  let sampling := r.sampling c family
  { jobId := c.jobId
    jobType := .variation
    prompt := some r.boundPrompt
    originalPrompt := r.source.bind (·.originalPrompt)
    negativePrompt := spec.recordedNegative (r.negative c family)
    seed := some sampling.seed
    steps := some sampling.steps
    guidance := some sampling.guidance
    denoise := some sampling.denoise
    style := some style.name
    selectedModel := some model.selection
    modelUsed := some model.filename
    family := some family
    aspectRatio := r.source.bind (·.aspectRatio)
    batchSize := some 1
    imageSource := some r.location
    sourceJobId := r.source.map (·.jobId)
    imageIndex := some (FollowUp.imageIndex r.imageIndex)
    variationStrength := some r.strength
    styleWarning := style.warning
    modelWarning := availabilityWarning c.settings model
    inferenceWarning := model.inferenceWarning }

def plan (r : VariationRequest) (c : JobContext) : Except CompileError Plan := do
  let model ← selectedModel r.model c.settings
  let family := model.family
  let spec ← modeSpec family r.strength.mode
  let style ← ResolvedStyle.resolve c.styles (FollowUp.styleName c r.style r.source) family
  let template ← spec.graph
  let loaders ← spec.modelBindings model
  let second ← spec.secondaryBindings family c.settings.wanLowNoiseUnet
  let lora ← spec.loraBindings family
  let samplers ← spec.samplerBindings template (r.sampling c family)
  let image ← spec.imageBindings r.location
  let suffix := r.strength.letter ++ "_" ++ FollowUp.imageLabel r.imageIndex r.source
  .ok
    { template
      bindings :=
        loaders ++ second ++ lora ++ spec.fluxClipBindings family c.settings ++ samplers ++
          image ++ spec.promptBindings r.boundPrompt (r.negative c family) ++
          spec.styleBindings style ++
          spec.outputBindings
            (OutputPath.stem c.settings.outputs.variations "GEN_VAR" c.jobId (some suffix))
      details := r.details c model spec style
      message := label r.strength ++ " variation (" ++ family.tag ++ ") prepared for image #" ++
        toString (FollowUp.imageIndex r.imageIndex).toNat ++ "." }

def compile (r : VariationRequest) (c : JobContext) : Except CompileError Compiled := do
  (← r.plan c).compile

end VariationRequest

end Renderflow
