import Renderflow.Job.FollowUp

/-!
# Upscale

A tiled upscale of one image of a finished job. The steps, the denoise and the guidance are
those that the template is tuned to.
-/

namespace Renderflow

structure UpscaleRequest where
  source : Option JobDetails := none
  /-- Where the image is. -/
  image : String := ""
  /-- The number of the image in its batch, from one. -/
  imageIndex : UInt32 := 0
  style : Option String := none
  model : Option String := none
  seed : Option Int64 := none

namespace UpscaleRequest

/-- The ratio of the source job, else the proportions of its size, else a square. -/
def aspectRatio (source : Option JobDetails) : String :=
  let recorded := ((source.bind (·.aspectRatio)).map Text.trim).filter AspectRatio.isRatio
  let measured := do
    let s ← source
    AspectRatio.ofSize? (← s.width) (← s.height)
  ((recorded.map Text.withoutBlanks).or measured).getD "1:1"

def upscaleModel (s : Settings) : String :=
  let configured := s.upscaleModel.bind Text.nonBlank?
  (configured.filter fun m => !Text.sameLetters m "none").getD "4x-UltraSharp.pth"

/-- A factor between 1.5 and 4. -/
def factor (s : Settings) : Float :=
  if 1.5 ≤ s.upscaleFactor ∧ s.upscaleFactor ≤ 4.0 then s.upscaleFactor else 1.85

def boundPrompt (r : UpscaleRequest) : String :=
  (r.source.bind JobDetails.bestPrompt?).getD "photo, masterpiece, best quality, very_detailed"

/-- The negative prompt of the source job unless it is blank, else that of the family. -/
def negative (r : UpscaleRequest) (c : JobContext) (family : Family) : String :=
  let inherited := (r.source.bind (·.negativePrompt)).filter fun n => (Text.nonBlank? n).isSome
  (inherited.or (c.settings.family family).negativePrompt).getD ""

/-- A number that the template holds for its sampler. -/
def tuned? (template : Graph) (spec : ModeSpec) (input : String) : Option Float :=
  ((template.find? spec.sampler).bind (·.input? input)).bind Value.asFloat?

def location (r : UpscaleRequest) : String :=
  OutputPath.normalize (Text.trim r.image)

/-- The record of the job, without what it bound. -/
def details (r : UpscaleRequest) (c : JobContext) (model : Model) (spec : ModeSpec)
    (style : ResolvedStyle) (template : Graph) : JobDetails :=
  let family := model.family
  { jobId := c.jobId
    jobType := .upscale
    prompt := some r.boundPrompt
    negativePrompt := spec.recordedNegative (r.negative c family)
    seed := some (r.seed.getD c.freshSeed)
    steps := (tuned? template spec "steps").map Float.toUInt32
    guidance := tuned? template spec "cfg"
    denoise := tuned? template spec "denoise"
    style := some style.name
    selectedModel := some model.selection
    modelUsed := some model.filename
    family := some family
    upscaleModel := some (upscaleModel c.settings)
    aspectRatio := some (aspectRatio r.source)
    batchSize := some 1
    imageSource := some r.location
    sourceJobId := r.source.map (·.jobId)
    imageIndex := some (FollowUp.imageIndex r.imageIndex)
    upscaleFactor := some (factor c.settings)
    styleWarning := style.warning
    modelWarning := availabilityWarning c.settings model
    inferenceWarning := model.inferenceWarning }

def plan (r : UpscaleRequest) (c : JobContext) : Except CompileError Plan := do
  let model ← selectedModel r.model c.settings
  let family := model.family
  let spec ← modeSpec family .upscale
  let style ← ResolvedStyle.resolve c.styles (FollowUp.styleName c r.style r.source) family
  let upscaler ← spec.require "upscale model loader" spec.upscaleLoader
  let helper ← spec.require "upscale helper" spec.latent
  let template ← spec.graph
  let loaders ← spec.modelBindings model
  let lora ← spec.loraBindings family
  let image ← spec.imageBindings r.location
  let seed := r.seed.getD c.freshSeed
  .ok
    { template
      bindings :=
        loaders ++ lora ++ spec.fluxClipBindings family c.settings ++
          [.set spec.sampler "seed" (.int seed),
            .set upscaler "model_name" (.str (upscaleModel c.settings)),
            .set helper "aspect_ratio" (.str (aspectRatio r.source)),
            .set helper "upscale_by" (.float (factor c.settings)),
            .set helper "model_type" (.str family.tag)] ++
          image ++ spec.promptBindings r.boundPrompt (r.negative c family) ++
          spec.styleBindings style ++
          spec.outputBindings
            (OutputPath.stem c.settings.outputs.upscales "GEN_UP" c.jobId
              (some (FollowUp.imageLabel r.imageIndex r.source)))
      details := r.details c model spec style template
      message := "Upscaling image #" ++ toString (FollowUp.imageIndex r.imageIndex).toNat ++
        " by " ++ Decimal.fixed 2 (factor c.settings) ++ "x (workflow: " ++ family.tag ++
        "). Seed: " ++ toString seed.toInt ++ ", Style: " ++ style.name ++ "." }

def compile (r : UpscaleRequest) (c : JobContext) : Except CompileError Compiled := do
  (← r.plan c).compile

end UpscaleRequest

end Renderflow
