import Renderflow.Text.Basic

/-!
# Model families and job modes

A family is a model architecture with a wiring of its own; a mode is a kind of operation
on it. Keys are matched without regard to case and surrounding white space.
-/

namespace Renderflow

inductive Family where
  | flux
  | wan
  | sdxl
  | qwen
  deriving DecidableEq, Repr

namespace Family

def all : List Family := [flux, wan, sdxl, qwen]

/-- The name of a family in settings, styles and model selections. -/
def key : Family → String
  | flux => "flux"
  | wan => "wan"
  | sdxl => "sdxl"
  | qwen => "qwen"

/-- The name of a family in messages and for the latent nodes of a graph. -/
def tag : Family → String
  | flux => "FLUX"
  | wan => "WAN"
  | sdxl => "SDXL"
  | qwen => "QWEN"

def ofKey? (text : String) : Option Family :=
  let name := Text.trim text
  all.find? fun f => Text.sameLetters f.key name

end Family

inductive Mode where
  | txt2img
  | img2img
  | weakVariation
  | strongVariation
  | upscale
  | edit
  | animation
  deriving DecidableEq, Repr

namespace Mode

def all : List Mode :=
  [txt2img, img2img, weakVariation, strongVariation, upscale, edit, animation]

/-- The name of a mode in messages. -/
def key : Mode → String
  | txt2img => "txt2img"
  | img2img => "img2img"
  | weakVariation => "weak_variation"
  | strongVariation => "strong_variation"
  | upscale => "upscale"
  | edit => "edit"
  | animation => "animation"

end Mode

/-- How far a variation may drift from its source image. -/
inductive VariationStrength where
  | weak
  | strong
  deriving DecidableEq, Repr

namespace VariationStrength

def all : List VariationStrength := [weak, strong]

def key : VariationStrength → String
  | weak => "weak"
  | strong => "strong"

def mode : VariationStrength → Mode
  | weak => .weakVariation
  | strong => .strongVariation

/-- The part of the diffusion that a variation runs again. -/
def denoise : VariationStrength → Float
  | weak => 0.48
  | strong => 0.75

/-- The mark of a strength in the names of output files. -/
def letter : VariationStrength → String
  | weak => "W"
  | strong => "S"

/-- A strength is given by its name or by the first letter of it. -/
def ofText? (text : String) : Option VariationStrength :=
  match Text.lower (Text.trim text) with
  | "weak" | "w" => some weak
  | "strong" | "s" => some strong
  | _ => none

end VariationStrength

end Renderflow
