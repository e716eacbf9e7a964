import Renderflow.Image.Spec
import Renderflow.Job.Plan

/-!
# Animation

A short video that begins with the image of a finished job. A caption for the motion may be
asked of an enhancer, which is given 45 seconds; without its answer the caption is made from
the prompt of the still image.
-/

namespace Renderflow

structure AnimationRequest where
  source : JobDetails := {}
  /-- Where the first frame is. -/
  image : String := ""
  motionProfile : Option String := none
  /-- Width and height around an `x`. -/
  resolution : Option String := none
  frames : Option UInt32 := none
  seed : Option Int64 := none

/-- What a service that writes captions does: after a delay in seconds it gives a text, or the
causes for which it has none, the outermost first. -/
structure EnhancerReply where
  delay : Float
  answer : Except (List String) String

namespace Animation

/-- How a motion profile is put into words. -/
def motionPhrase (profile : String) : String :=
  match profile with
  | "slowmo" => "slow, lingering cinematography with gentle motion cues"
  | "low" => "understated, graceful motion with subtle camera drift"
  | "high" => "energetic, high-intensity motion with bold camera moves"
  | _ => "cinematic pacing with balanced subject and camera movement"

def defaultResolution : UInt32 × UInt32 := (512, 512)

/-- The size that a text gives, with sides of at least 64. -/
def parseResolution (text : String) : UInt32 × UInt32 :=
  match Image.sides? text with
  | some (width, height) => (max width 64, max height 64)
  | none => defaultResolution

/-- The first text that is not blank, trimmed. -/
def firstNonBlank? (candidates : List (Option String)) : Option String :=
  candidates.findSome? fun t => t.bind Text.nonBlank?

/-- The first text that looks like a file name, trimmed. -/
def firstAsset? (candidates : List (Option String)) : Option String :=
  candidates.findSome? fun t =>
    (t.bind Text.nonBlank?).filter fun name => name.toList.contains '.'

/-- What the enhancer is asked. -/
def direction (still profile phrase : String) (frames : UInt32) (resolution : String) : String :=
  "Create a WAN 2.2 animation direction based on the following still-image prompt.\n" ++
  "Describe the opening, evolving motion, and ending in two or three sentences.\n" ++
  "Match the requested motion profile (" ++ profile ++ " = " ++ phrase ++ ").\n" ++
  "Target roughly " ++ toString frames.toNat ++ " frames at " ++ resolution ++ " resolution.\n" ++
  "Maintain subject fidelity and atmosphere from the source prompt while adding motion.\n\n" ++
  "Still prompt:\n" ++ still

/-- How long the enhancer may take, in seconds. -/
def patience : Nat := 45

/-- The caption that a reply gives, or why it gives none. Without an enhancer there is
neither. -/
def caption (reply : Option EnhancerReply) : Option String × Option String :=
  match reply with
  | none => (none, none)
  | some r =>
    if Float.ofNat patience < r.delay then
      (none, some ("Enhancer timed out after " ++ toString patience ++ "s"))
    else match r.answer with
      | .ok text =>
        match Text.nonBlank? text with
        | some t => (some t, none)
        | none => (none, some "Enhancer returned an empty prompt")
      | .error causes => (none, some (": ".intercalate causes))

/-- Classes of nodes that shift the sampling of a model. -/
def shiftClasses : List String := ["ModelSamplingSD3", "ModelSamplingAuraFlow"]

def shiftBindings (template : Graph) (shift : Option Float) : List Binding :=
  match shift.filter Decimal.isFinite with
  | none => []
  | some x =>
    (shiftClasses.flatMap template.ofClass).map fun e => .set e.1 "shift" (.float x)

/-- A WAN model that a loader can read. -/
def readable? (filename : String) : Option Model :=
  let m : Model := { family := .wan, filename, inferred := false }
  match m.loader with
  | .ok _ => some m
  | .error _ => none

end Animation

namespace AnimationRequest

open Animation

/-- What is settled of an animation before its caption is asked for. -/
structure Scene where
  profile : String
  width : UInt32
  height : UInt32
  frames : UInt32
  still : String

def Scene.resolution (s : Scene) : String :=
  toString s.width.toNat ++ "x" ++ toString s.height.toNat

/-- What the enhancer is asked about a scene. -/
def Scene.direction (s : Scene) : String :=
  Animation.direction s.still s.profile (motionPhrase s.profile) s.frames s.resolution

/-- The caption of a scene when the enhancer gives none. -/
def Scene.fallback (s : Scene) : String :=
  s.still ++ " - captured with " ++ motionPhrase s.profile ++ ", unfolding over " ++
    toString s.frames.toNat ++ " frames."

def scene (r : AnimationRequest) (s : Settings) : Scene :=
  let (width, height) :=
    ((firstNonBlank? [r.resolution, r.source.animationResolution, s.wanAnimation.resolution]).map
      parseResolution).getD defaultResolution
  { profile := Text.lower ((firstNonBlank?
      [r.motionProfile, r.source.motionProfile, s.wanAnimation.motionProfile]).getD "medium")
    width
    height
    frames := ([r.frames, r.source.animationFrames, s.wanAnimation.duration].findSome?
      fun n => n.filter (0 < ·)).getD 33
    still := (firstNonBlank?
      [r.source.enhancedPrompt, r.source.prompt, r.source.originalPrompt]).getD
        "Describe the scene vividly." }

def negative (r : AnimationRequest) (s : Settings) : String :=
  (firstNonBlank? [r.source.negativePrompt, s.wan.negativePrompt]).getD ""

/-- The WAN model of the source job. -/
def sourceModel? (r : AnimationRequest) : Option String :=
  if r.source.family = some .wan then r.source.modelUsed else none

/-- The configured WAN model, else the selected one if it is a WAN model. -/
def configuredModel? (s : Settings) : Option String :=
  [s.wan.model, s.selectedModel].findSome? fun selection =>
    match selection.map Model.resolve with
    | some (.ok m) => if m.family = .wan then some m.filename else none
    | _ => none

/-- The model of the first stage. A file that no loader reads gives way to the next one, and
at last to that of the template. -/
def highNoise? (r : AnimationRequest) (s : Settings) : Option Model :=
  [r.sourceModel?, configuredModel? s].findSome? fun candidate =>
    (firstAsset? [candidate]).bind readable?

def sampling (r : AnimationRequest) (c : JobContext) : Sampling :=
  { seed := r.seed.getD c.freshSeed
    steps := Sampling.resolveSteps none c.settings .wan
    guidance := Sampling.resolveGuidance none c.settings .wan
    denoise := 1.0 }

/-- Overwrites an input if there is a file for it and the mode has the node. -/
def assetBindings (node : Option String) (input : String) (filename : Option String) :
    List Binding :=
  match node, filename with
  | some node, some filename => [.set node input (.str filename)]
  | _, _ => []

def location (r : AnimationRequest) : String :=
  OutputPath.normalize (Text.trim r.image)

/-- The model of the second stage. -/
def lowNoise? (s : Settings) : Option String :=
  firstAsset? [s.wanAnimation.lowNoiseUnet, s.wanLowNoiseUnet]

/-- The caption that a reply gives for the job, else one made from the still image. -/
def boundPrompt (r : AnimationRequest) (s : Settings) (reply : Option EnhancerReply) : String :=
  (caption reply).1.getD (r.scene s).fallback

/-- The record of the job, without what it bound. -/
def details (r : AnimationRequest) (c : JobContext) (reply : Option EnhancerReply)
    (spec : ModeSpec) : JobDetails :=
  let scene := r.scene c.settings
  let sampling := r.sampling c
  let prompt := r.boundPrompt c.settings reply
  { jobId := c.jobId
    jobType := .wanAnimation
    prompt := some prompt
    originalPrompt := some scene.still
    enhancedPrompt := some prompt
    negativePrompt := spec.recordedNegative (r.negative c.settings)
    seed := some sampling.seed
    steps := some sampling.steps
    guidance := some sampling.guidance
    style := r.source.style.or (some "off")
    selectedModel := r.source.selectedModel
    modelUsed := (r.highNoise? c.settings).map (·.filename)
    family := some .wan
    aspectRatio := some scene.resolution
    width := some scene.width
    height := some scene.height
    batchSize := some 1
    imageSource := some r.location
    sourceJobId := if r.source.jobId.isEmpty then none else some r.source.jobId
    imageIndex := some 1
    motionProfile := some scene.profile
    animationResolution := some scene.resolution
    animationFrames := some scene.frames
    animationPrompt := some prompt
    enhancerUsed := some (caption reply).1.isSome
    enhancerError := (caption reply).2 }

/-- The loader of the first stage. Without a readable model it is that of the template. -/
def highNoiseBindings (r : AnimationRequest) (s : Settings) (spec : ModeSpec) :
    Except ResourceError (List Binding) :=
  match r.highNoise? s with
  | some m => spec.modelBindings m
  | none => .ok []

/-- The size and the length of the video. -/
def Scene.bindings (s : Scene) (video : String) : List Binding :=
  [.set video "width" (.ofUInt32 s.width),
    .set video "height" (.ofUInt32 s.height),
    .set video "length" (.ofUInt32 s.frames)]

def plan (r : AnimationRequest) (c : JobContext) (reply : Option EnhancerReply) :
    Except CompileError Plan := do
  let spec ← modeSpec .wan .animation
  let anim := c.settings.wanAnimation
  let scene := r.scene c.settings
  let video ← spec.require "image-to-video" spec.latent
  let template ← spec.graph
  let first ← r.highNoiseBindings c.settings spec
  let second ← spec.secondaryBindings .wan (lowNoise? c.settings)
  let image ← spec.imageBindings r.location
  let samplers ← spec.samplerBindings template (r.sampling c)
  .ok
    { template
      bindings :=
        first ++ second ++
          assetBindings spec.clipLoader "clip_name" (firstAsset? [anim.clip]) ++
          assetBindings (some "wan_i2v_vision_clip") "clip_name" (firstAsset? [anim.visionClip]) ++
          assetBindings spec.vaeLoader "vae_name" (firstAsset? [anim.vae]) ++
          image ++
          spec.promptBindings (r.boundPrompt c.settings reply) (r.negative c.settings) ++
          samplers ++ scene.bindings video ++ shiftBindings template anim.shift ++
          spec.outputBindings
            (OutputPath.stem c.settings.outputs.animations "WAN_ANIM" c.jobId none)
      details := r.details c reply spec
      message := "WAN animation job " ++ c.jobId ++ " prepared (" ++
        toString scene.frames.toNat ++ " frames)." }

def compile (r : AnimationRequest) (c : JobContext) (reply : Option EnhancerReply) :
    Except CompileError Compiled := do
  (← r.plan c reply).compile

end AnimationRequest

end Renderflow
