import Renderflow.Proofs.Job.Stitch

/-!
# What a job may write

The places that a job of a mode binds, role by role. A connection among them is the one
that the template has there.
-/

namespace Renderflow

namespace Footprint

/-- Inputs of a node that hold no connection. -/
def constants (node : String) (names : List String) : List Footprint :=
  names.map fun name => .input node name none

end Footprint

/-- What of the reach of a job depends on its request and the settings. -/
structure Extent where
  images : Nat
  /-- The loader of the model is replaced. -/
  first : Bool := true
  /-- The loader of the second stage is replaced. -/
  second : Bool := true

namespace ModeSpec

open Footprint (constants)

def modelFootprint (s : ModeSpec) (e : Extent) : List Footprint :=
  if e.first then [.whole s.modelLoader []] else []

def secondaryFootprint (s : ModeSpec) (e : Extent) : List Footprint :=
  if e.second then s.secondaryLoader.toList.map fun node => .whole node [] else []

/-- The output that holds the text encoder of a job. -/
def encoderOutput (s : ModeSpec) : Family → Option Connection
  | .flux | .wan => s.clipLoader.map fun node => ⟨node, 0⟩
  | .sdxl | .qwen => some ⟨s.modelLoader, 1⟩

def loraFootprint (s : ModeSpec) (family : Family) : List Footprint :=
  s.lora.toList.flatMap fun node =>
    [.input node "model" (some ⟨s.modelLoader, 0⟩), .input node "clip" (s.encoderOutput family)]

def styleFootprint (s : ModeSpec) : List Footprint :=
  s.lora.toList.flatMap fun node => constants node slotNames.toList

def fluxClipFootprint (s : ModeSpec) : Family → List Footprint
  | .flux => s.clipLoader.toList.flatMap fun node => constants node ["clip_name1", "clip_name2"]
  | _ => []

/-- The input of the samplers of a mode that takes the seed. -/
def seedName (s : ModeSpec) : String :=
  if s.initialSampler.isSome then "noise_seed" else "seed"

def stageFootprint (s : ModeSpec) (node : String) : List Footprint :=
  constants node [s.seedName, "steps", "cfg"]

def samplerFootprint (s : ModeSpec) : List Footprint :=
  match s.initialSampler with
  | some initial =>
    s.stageFootprint initial ++ s.stageFootprint s.sampler ++
      constants initial ["start_at_step", "end_at_step"] ++ constants s.sampler ["start_at_step"]
  | none =>
    constants s.sampler [s.seedName, "steps", "denoise"] ++
      match s.guidance with
      | some node => constants node ["guidance"]
      | none => constants s.sampler ["cfg"]

/-- The latent image of a node enters the first sampler. -/
def entryFootprint (s : ModeSpec) (node : String) : Footprint :=
  .input s.firstSampler "latent_image" (some ⟨node, 0⟩)

def latentFootprint (s : ModeSpec) : List Footprint :=
  s.latent.toList.flatMap fun node =>
    constants node ["aspect_ratio", "mp_size_float", "model_type", "batch_size"] ++
      [s.entryFootprint node]

def imageFootprint (s : ModeSpec) : List Footprint :=
  (s.loadImage.toList.flatMap fun node => constants node ["url_or_path"]) ++
    s.encode.toList.map s.entryFootprint

def promptFootprint (s : ModeSpec) : List Footprint :=
  constants s.positivePrompt ["text"] ++
    s.negativePrompt.toList.flatMap fun node => constants node ["text"]

def outputFootprint (s : ModeSpec) : List Footprint :=
  constants s.save ["filename_prefix"]

/-- The seed, the helper and the upscale model of an upscale. -/
def upscaleFootprint (s : ModeSpec) : List Footprint :=
  constants s.sampler ["seed"] ++
    (s.upscaleLoader.toList.flatMap fun node => constants node ["model_name"]) ++
    s.latent.toList.flatMap fun node => constants node ["aspect_ratio", "upscale_by", "model_type"]

def vaeFootprint (s : ModeSpec) : List Footprint :=
  s.vaeLoader.toList.flatMap fun node => constants node ["vae_name"]

/-- The load nodes of a number of images. -/
def loadersFootprint (images : Nat) : List Footprint :=
  (List.range' 1 images).map fun i => .input (Stitch.loaderName i) "url_or_path" none

/-- The encoders that an animation takes from the settings. -/
def animationClipFootprint (s : ModeSpec) : List Footprint :=
  (s.clipLoader.toList.flatMap fun node => constants node ["clip_name"]) ++
    constants "wan_i2v_vision_clip" ["clip_name"]

def videoFootprint (s : ModeSpec) : List Footprint :=
  s.latent.toList.flatMap fun node => constants node ["width", "height", "length"]

def shiftFootprint : List Footprint :=
  ["wan_shift_high", "wan_shift_low"].flatMap fun node => constants node ["shift"]

/-- What a job of a mode may write, besides the nodes that a Flux edit adds. -/
def footprint (s : ModeSpec) (family : Family) (e : Extent) : List Footprint :=
  match s.mode, family with
  | .upscale, _ =>
    s.modelFootprint e ++ s.loraFootprint family ++ s.fluxClipFootprint family ++
      s.upscaleFootprint ++ s.imageFootprint ++ s.promptFootprint ++ s.styleFootprint ++
      s.outputFootprint
  | .edit, .flux =>
    s.modelFootprint e ++ s.vaeFootprint ++ s.fluxClipFootprint family ++
      loadersFootprint e.images ++ s.samplerFootprint ++ s.latentFootprint ++
      s.promptFootprint ++ s.outputFootprint
  | .edit, _ =>
    constants s.modelLoader ["ckpt_name"] ++ s.loraFootprint family ++ s.samplerFootprint ++
      s.imageFootprint ++ s.promptFootprint ++ s.styleFootprint ++ s.outputFootprint
  | .animation, _ =>
    s.modelFootprint e ++ s.secondaryFootprint e ++ s.animationClipFootprint ++ s.vaeFootprint ++
      s.imageFootprint ++ s.promptFootprint ++ s.samplerFootprint ++ s.videoFootprint ++
      shiftFootprint ++ s.outputFootprint
  | _, _ =>
    s.modelFootprint e ++ s.secondaryFootprint e ++ s.loraFootprint family ++
      s.fluxClipFootprint family ++ s.samplerFootprint ++
      (s.latentFootprint ++ s.imageFootprint) ++ s.promptFootprint ++ s.styleFootprint ++
      s.outputFootprint

/-- What a Flux edit writes before that. -/
def stitchFootprint (s : ModeSpec) (family : Family) (images : Nat) : List Footprint :=
  if s.mode = .edit ∧ family = .flux then Stitch.footprint images else []

/-- All that a job of a mode may write. -/
def reach (s : ModeSpec) (family : Family) (e : Extent) : List Footprint :=
  s.footprint family e ++ s.stitchFootprint family e.images

theorem modelFootprint_sublist (s : ModeSpec) (e : Extent) :
    (s.modelFootprint e).Sublist (s.modelFootprint { images := e.images }) := by
  cases h : e.first <;> simp [modelFootprint, h]

theorem secondaryFootprint_sublist (s : ModeSpec) (e : Extent) :
    (s.secondaryFootprint e).Sublist (s.secondaryFootprint { images := e.images }) := by
  cases h : e.second <;> simp [secondaryFootprint, h]

/-- A job that replaces fewer loaders writes less. -/
theorem footprint_sublist (s : ModeSpec) (family : Family) (e : Extent) :
    (s.footprint family e).Sublist (s.footprint family { images := e.images }) := by
  have hmodel := s.modelFootprint_sublist e
  have hsecondary := s.secondaryFootprint_sublist e
  unfold footprint
  simp only [List.append_assoc]
  split
  · exact hmodel.append (.refl _)
  · exact hmodel.append (.refl _)
  · exact .refl _
  · exact hmodel.append (hsecondary.append (.refl _))
  · exact hmodel.append (hsecondary.append (.refl _))

theorem reach_sublist (s : ModeSpec) (family : Family) (e : Extent) :
    (s.reach family e).Sublist (s.reach family { images := e.images }) :=
  (s.footprint_sublist family e).append (.refl _)

/-- The layout that a job of a mode starts from. -/
def layout? (s : ModeSpec) (family : Family) (images : Nat) : Option Layout :=
  (Template.layout? s.template).map fun l =>
    if s.mode = .edit ∧ family = .flux then Stitch.layout l images else l

/-- The nodes that a job adds to its template. -/
def added (s : ModeSpec) (family : Family) (images : Nat) : List String :=
  if s.mode = .edit ∧ family = .flux then Stitch.added images else []

end ModeSpec

end Renderflow
