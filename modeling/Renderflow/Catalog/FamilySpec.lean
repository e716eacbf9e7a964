import Renderflow.Catalog.Flux
import Renderflow.Catalog.Qwen
import Renderflow.Catalog.Sdxl
import Renderflow.Catalog.Wan
import Renderflow.Error

/-!
# The catalog of families

What is fixed for every family: its label, the sampling values that apply when neither the
request nor the settings give a valid one, and its modes.
-/

namespace Renderflow

structure FamilySpec where
  family : Family
  label : String
  stepsFallback : UInt32
  guidanceFallback : Float
  supportsNegativePrompt : Bool
  modes : List ModeSpec

namespace Catalog

def flux : FamilySpec :=
  { family := .flux
    label := "Flux"
    stepsFallback := 32
    guidanceFallback := 3.5
    supportsNegativePrompt := false
    modes := Flux.modes }

def sdxl : FamilySpec :=
  { family := .sdxl
    label := "SDXL"
    stepsFallback := 26
    guidanceFallback := 7.0
    supportsNegativePrompt := true
    modes := Sdxl.modes }

def qwen : FamilySpec :=
  { family := .qwen
    label := "Qwen Image"
    stepsFallback := 28
    guidanceFallback := 5.5
    supportsNegativePrompt := true
    modes := Qwen.modes }

def wan : FamilySpec :=
  { family := .wan
    label := "WAN 2.2"
    stepsFallback := 30
    guidanceFallback := 6.0
    supportsNegativePrompt := true
    modes := Wan.modes }

end Catalog

def Family.spec : Family → FamilySpec
  | flux => Catalog.flux
  | wan => Catalog.wan
  | sdxl => Catalog.sdxl
  | qwen => Catalog.qwen

/-- The family that a key names. -/
def Family.ofKey (text : String) : Except ValidationError Family :=
  match ofKey? text with
  | some family => .ok family
  | none => .error (.unknownFamily text)

/-- The strength that a text names. -/
def VariationStrength.ofText (text : String) : Except ValidationError VariationStrength :=
  match ofText? text with
  | some strength => .ok strength
  | none => .error (.unknownVariationStrength (Text.trim text))

/-- The spec of a mode, unless the family lacks it. -/
def modeSpec (family : Family) (mode : Mode) : Except ValidationError ModeSpec :=
  match family.spec.modes.find? fun s => s.mode = mode with
  | some spec => .ok spec
  | none => .error (.unsupportedMode family mode)

namespace ModeSpec

/-- A fresh copy of the template of a mode. -/
def graph (s : ModeSpec) : Except InternalError Graph :=
  match Template.find? s.template with
  | some g => .ok g
  | none => .error (.template s.template "template not found")

/-- A role that a job cannot do without. -/
def require (s : ModeSpec) (role : String) (node : Option String) : Except InternalError String :=
  match node with
  | some id => .ok id
  | none => .error (.template s.template ("mode has no " ++ role ++ " node"))

end ModeSpec

end Renderflow
