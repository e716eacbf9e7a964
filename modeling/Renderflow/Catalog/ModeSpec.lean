import Renderflow.Family
import Renderflow.Template.Flux
import Renderflow.Template.Qwen
import Renderflow.Template.Sdxl
import Renderflow.Template.Wan

/-!
# Mode specs

Which nodes of a template play which role in a job. A role that a mode does not have is
absent, and the nodes of a spec are all the nodes of its template.
-/

namespace Renderflow

structure ModeSpec where
  mode : Mode
  /-- The name of the template in the library. -/
  template : String
  /-- Takes the seed and the steps; in a graph with two stages, the final stage. -/
  sampler : String
  /-- The first of two sampling stages. -/
  initialSampler : Option String := none
  /-- The node that sets the size, or the helper that computes the size of an upscale. -/
  latent : Option String := none
  save : String
  modelLoader : String
  /-- The loader of the final stage, in a graph with two stages. -/
  secondaryLoader : Option String := none
  positivePrompt : String
  negativePrompt : Option String := none
  /-- The node that takes the guidance, where the sampler does not. -/
  guidance : Option String := none
  clipLoader : Option String := none
  vaeLoader : Option String := none
  lora : Option String := none
  shift : Option String := none
  loadImage : Option String := none
  encode : Option String := none
  upscaleLoader : Option String := none
  nodes : List String
  deriving DecidableEq, Repr

namespace ModeSpec

/-- The nodes with a role, the required roles first. -/
def roleNodes (s : ModeSpec) : List String :=
  [s.sampler, s.save, s.modelLoader, s.positivePrompt] ++
    [s.initialSampler, s.latent, s.secondaryLoader, s.negativePrompt, s.guidance, s.clipLoader,
      s.vaeLoader, s.lora, s.shift, s.loadImage, s.encode, s.upscaleLoader].filterMap id

/-- The sampler that the latent image enters. -/
def firstSampler (s : ModeSpec) : String :=
  s.initialSampler.getD s.sampler

/-- The samplers in the order in which they run. -/
def samplers (s : ModeSpec) : List String :=
  s.initialSampler.toList ++ [s.sampler]

end ModeSpec

namespace Template

/-- The templates by name. -/
def library : List (String × Layout) :=
  [ ("flux/txt2img", Flux.txt2img),
    ("flux/img2img", Flux.img2img),
    ("flux/weak_variation", Flux.weakVariation),
    ("flux/strong_variation", Flux.strongVariation),
    ("flux/upscale", Flux.upscale),
    ("flux/kontext", Flux.kontext),
    ("sdxl/txt2img", Sdxl.txt2img),
    ("sdxl/img2img", Sdxl.img2img),
    ("sdxl/variation", Sdxl.variation),
    ("sdxl/upscale", Sdxl.upscale),
    ("qwen/txt2img", Qwen.txt2img),
    ("qwen/img2img", Qwen.img2img),
    ("qwen/variation", Qwen.variation),
    ("qwen/upscale", Qwen.upscale),
    ("qwen/edit", Qwen.edit),
    ("wan/txt2img", Wan.txt2img),
    ("wan/img2img", Wan.img2img),
    ("wan/variation", Wan.variation),
    ("wan/animation", Wan.animation) ]

def layout? (name : String) : Option Layout :=
  library.lookup name

def find? (name : String) : Option Graph :=
  (layout? name).map Layout.graph

end Template

end Renderflow
