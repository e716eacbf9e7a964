import Renderflow.Job.Plan

/-!
# Edit

An edit of reference images by an instruction. A Flux edit takes one to four images, which
are stitched into one; a Qwen edit takes exactly one.
-/

namespace Renderflow

structure EditRequest where
  /-- Over the family of the selected model. -/
  family : Option Family := none
  /-- Where the images are. -/
  images : List String := []
  instruction : String := ""
  seed : Option Int64 := none
  steps : Option UInt32 := none
  guidance : Option Float := none
  /-- Of a Qwen edit alone. -/
  denoise : Option Float := none
  /-- Of a Flux edit alone. -/
  aspectRatio : Option String := none
  /-- Width and height of the first image, for its ratio. -/
  imageSize : Option (UInt32 × UInt32) := none
  sourceJobId : Option String := none

namespace Stitch

/-- A node that puts two images together. -/
def node (title first second direction : String) : NodeLayout :=
  .of "ImageStitch" title
    [ ("image1", .link ⟨first, 0⟩),
      ("image2", .link ⟨second, 0⟩),
      ("direction", .str direction),
      ("match_image_size", .bool true),
      ("spacing_width", .int 0),
      ("spacing_color", .str "white"),
      ("feathering", .int 0) ]

def pair : String × NodeLayout :=
  ("stitch_1_2", node "Stitch 1 & 2" "load_image_1" "load_image_2" "right")

/-- The lower row of a grid. -/
def lower (fourth : String) : String × NodeLayout :=
  ("stitch_3_4", node "Stitch 3 & 4" "load_image_3" fourth "right")

def grid : String × NodeLayout :=
  ("stitch_final_vertical", node "Stitch Final Grid" "stitch_1_2" "stitch_3_4" "down")

/-- The stitching of a number of images. The third of three stands twice in the grid. -/
def nodes : Nat → Layout
  | 0 | 1 => []
  | 2 => [pair]
  | 3 => [pair, lower "load_image_3", grid]
  | _ => [pair, lower "load_image_4", grid]

/-- The node that holds the stitched image. -/
def result : Nat → String
  | 0 | 1 => "load_image_1"
  | 2 => "stitch_1_2"
  | _ => "stitch_final_vertical"

def loaderName (i : Nat) : String :=
  "load_image_" ++ toString i

/-- The further load nodes, like the first one but for their titles. -/
def loaders (first : Node) (count : Nat) : List (String × Node) :=
  (List.range' 2 (count - 1)).map fun i =>
    (loaderName i, { first with title := some ("Load Source Image " ++ toString i) })

/-- Adds the nodes for a number of images and feeds the result to the resizer. -/
def bindings (first : Node) (count : Nat) : List Binding :=
  ((loaders first count).map fun e => .silent (.insertNode e.1 e.2)) ++
    ((nodes count).map fun e => .silent (.insertNode e.1 e.2.node)) ++
    [.connect "image_resizer" "image" (result count) 0]

/-- Binds the locations of the images, counted from one. -/
def locationBindings (locations : List String) : List Binding :=
  (locations.zipIdx 1).map fun l => .set (loaderName l.2) "url_or_path" (.str l.1)

end Stitch

namespace EditRequest

/-- The requested family, else that of the selected model; Flux when none is selected. -/
def editFamily (r : EditRequest) (c : JobContext) : Except ResourceError Family :=
  match r.family with
  | some family => .ok family
  | none =>
    match selectedModel none c.settings with
    | .ok model => .ok model.family
    | .error .noModelSelected => .ok .flux
    | .error e => .error e

/-- The requested ratio, else that of the first image, else the default. -/
def aspectRatioOf (r : EditRequest) (s : Settings) : Except ValidationError String :=
  match r.aspectRatio.bind Text.nonBlank?,
    r.imageSize.bind fun size => AspectRatio.ofSize? size.1 size.2 with
  | none, some ratio => .ok ratio
  | requested, _ => AspectRatio.resolve requested s

def suffix (r : EditRequest) : Option String :=
  ((r.sourceJobId.bind Text.nonBlank?).filter (· != "unknown")).map ("from_" ++ ·)

/-- The trimmed locations of the images, all of which name images. -/
def validImages (r : EditRequest) (c : JobContext) : Except CompileError (List String) := do
  let locations := r.images.map Text.trim
  Image.validateAll c.world locations
  .ok locations

/-- The loader of a Flux edit: quantized, unless the extension tells otherwise. -/
def fluxLoader (filename : String) : Node :=
  if Text.endsWith (Text.lower filename) ".safetensors" then
    Model.diffusionLoader "Load Kontext Model" filename
  else Model.quantizedLoader "Load Kontext Model" filename

def fluxSampling (r : EditRequest) (c : JobContext) : Sampling :=
  { seed := r.seed.getD c.freshSeed
    steps := (r.steps.filter Sampling.isSteps).getD c.settings.kontextSteps
    guidance := r.guidance.getD c.settings.kontextGuidance
    denoise := 1.0 }

def fluxModel (s : Settings) : Except ResourceError String :=
  match s.kontextModel.bind Text.nonBlank? with
  | some model => .ok model
  | none => .error (.noEditModel .flux)

/-- The number of images has to lie in a range, which is told in words. -/
def checkCount (r : EditRequest) (least most : Nat) (expected : String) :
    Except ValidationError Unit :=
  if least ≤ r.images.length ∧ r.images.length ≤ most then .ok ()
  else .error (.invalidImageCount .edit expected r.images.length)

/-- The record of a Flux edit, without what it bound. -/
def fluxDetails (r : EditRequest) (c : JobContext) (spec : ModeSpec) (images : List String)
    (model ratio : String) : JobDetails :=
  let sampling := r.fluxSampling c
  { jobId := c.jobId
    jobType := .kontextEdit
    prompt := some r.instruction
    negativePrompt := spec.recordedNegative ""
    seed := some sampling.seed
    steps := some sampling.steps
    guidance := some sampling.guidance
    denoise := some sampling.denoise
    modelUsed := some model
    family := some .flux
    aspectRatio := some ratio
    mpSize := some c.settings.kontextMpSize
    batchSize := some 1
    imageSources := some images
    sourceJobId := r.sourceJobId }

def fluxPlan (r : EditRequest) (c : JobContext) : Except CompileError Plan := do
  let spec ← modeSpec .flux .edit
  r.checkCount 1 4 "1 to 4"
  let images ← r.validImages c
  let model ← fluxModel c.settings
  let vae := (c.settings.vae.bind Text.nonBlank?).getD "ae.safetensors"
  let ratio ← r.aspectRatioOf c.settings
  let vaeLoader ← spec.require "VAE loader" spec.vaeLoader
  let template ← spec.graph
  let first ← template.node "load_image_1"
  let samplers ← spec.samplerBindings template (r.fluxSampling c)
  let latent ← spec.latentBindings .flux ratio c.settings.kontextMpSize 1
  .ok
    { template
      bindings :=
        Stitch.bindings first r.images.length ++
          [.loader spec.modelLoader (fluxLoader model) "unet_name" model,
            .set vaeLoader "vae_name" (.str vae)] ++
          spec.fluxClipBindings .flux c.settings ++ Stitch.locationBindings images ++ samplers ++
          latent ++ spec.promptBindings r.instruction "" ++
          spec.outputBindings
            (OutputPath.stem c.settings.outputs.edits "EDIT" c.jobId r.suffix)
      details := r.fluxDetails c spec images model ratio
      message := "Kontext edit job " ++ c.jobId ++ " prepared." }

/-- The configured model less the key of a family before it, else the selected model if it is
a Qwen model. The extension of a configured model is not looked at. -/
def qwenModel (s : Settings) : Except ResourceError Model :=
  match s.qwen.model.bind Text.nonBlank? with
  | some configured =>
    let filename := match Model.explicit? configured with
      | some (_, rest) => rest
      | none => configured
    if filename.isEmpty then .error (.noEditModel .qwen)
    else .ok { family := .qwen, filename, inferred := false }
  | none =>
    match selectedModel none s with
    | .ok model => if model.family = .qwen then .ok model else .error (.noEditModel .qwen)
    | .error _ => .error (.noEditModel .qwen)

/-- The requested denoise within its range, else a whole one. -/
def boundDenoise (r : EditRequest) : Float :=
  ((r.denoise.filter Decimal.isFinite).map (Decimal.clamp 0.0 1.0)).getD 1.0

def qwenSampling (r : EditRequest) (c : JobContext) : Sampling :=
  { seed := r.seed.getD c.freshSeed
    steps := Sampling.resolveSteps r.steps c.settings .qwen
    guidance := Sampling.resolveGuidance r.guidance c.settings .qwen
    denoise := r.boundDenoise }

def qwenNegative (s : Settings) : String :=
  s.qwen.negativePrompt.getD ""

/-- The record of a Qwen edit, without what it bound. -/
def qwenDetails (r : EditRequest) (c : JobContext) (spec : ModeSpec) (images : List String)
    (model : Model) : JobDetails :=
  let sampling := r.qwenSampling c
  { jobId := c.jobId
    jobType := .qwenImageEdit
    prompt := some (Text.trim r.instruction)
    negativePrompt := spec.recordedNegative (qwenNegative c.settings)
    seed := some sampling.seed
    steps := some sampling.steps
    guidance := some sampling.guidance
    denoise := some sampling.denoise
    style := some ResolvedStyle.off.name
    selectedModel := some model.selection
    modelUsed := some model.filename
    family := some model.family
    imageSource := some (images.headD "")
    imageSources := some images
    sourceJobId := r.sourceJobId
    modelWarning := availabilityWarning c.settings model
    inferenceWarning := model.inferenceWarning }

def qwenPlan (r : EditRequest) (c : JobContext) : Except CompileError Plan := do
  let spec ← modeSpec .qwen .edit
  r.checkCount 1 1 "exactly 1"
  let images ← r.validImages c
  let model ← qwenModel c.settings
  let template ← spec.graph
  let lora ← spec.loraBindings .qwen
  let samplers ← spec.samplerBindings template (r.qwenSampling c)
  let image ← spec.imageBindings (images.headD "")
  .ok
    { template
      bindings :=
        [.set spec.modelLoader "ckpt_name" (.str model.filename)] ++ lora ++ samplers ++ image ++
          spec.promptBindings (Text.trim r.instruction) (qwenNegative c.settings) ++
          spec.styleBindings .off ++
          spec.outputBindings
            (OutputPath.stem c.settings.outputs.edits "QWEN_EDIT" c.jobId r.suffix)
      details := r.qwenDetails c spec images model
      message := "Qwen edit job " ++ c.jobId ++ " prepared." }

def plan (r : EditRequest) (c : JobContext) : Except CompileError Plan := do
  match ← r.editFamily c with
  | .flux => r.fluxPlan c
  | .qwen => r.qwenPlan c
  | family => throw (.validation (.unsupportedMode family .edit))

def compile (r : EditRequest) (c : JobContext) : Except CompileError Compiled := do
  (← r.plan c).compile

end EditRequest

end Renderflow
