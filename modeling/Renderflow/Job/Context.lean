import Renderflow.Catalog.FamilySpec
import Renderflow.Image.Location
import Renderflow.Model
import Renderflow.Settings
import Renderflow.Style

/-!
# What a job is compiled with

A value of a job is taken from the request, else from the settings, else it is a fixed one;
a value that is not valid gives way to the next. The id of a job and the seed of a job whose
request has none are made of random numbers.
-/

namespace Renderflow

structure JobContext where
  settings : Settings
  styles : StyleBook
  world : World
  /-- The id of the job. -/
  jobId : String
  /-- The seed of a job whose request has none. -/
  freshSeed : Int64

/-! ## Fresh ids and seeds -/

/-- Eight hexadecimal digits, the highest first. -/
def freshJobId (word : BitVec 32) : String :=
  String.ofList ((List.range 8).map fun i => Nat.digitChar (word.toNat / Nat.pow 16 (7 - i) % 16))

/-- Fresh seeds are below this bound. -/
def seedBound : Nat := Nat.pow 10 15

def freshSeed (n : Nat) : Int64 :=
  Int64.ofNat (n % seedBound)

/-! ## Sampling -/

/-- The values that the samplers of a graph take. -/
structure Sampling where
  seed : Int64
  steps : UInt32
  guidance : Float
  denoise : Float

namespace Sampling

def isSteps (n : UInt32) : Bool :=
  0 < n

def isGuidance (g : Float) : Bool :=
  Decimal.isFinite g && 0.0 ≤ g

def resolveSteps (requested : Option UInt32) (s : Settings) (family : Family) : UInt32 :=
  ((requested.filter isSteps).or ((s.family family).steps.filter isSteps)).getD
    family.spec.stepsFallback

def resolveGuidance (requested : Option Float) (s : Settings) (family : Family) : Float :=
  ((requested.filter isGuidance).or ((s.family family).guidance.filter isGuidance)).getD
    family.spec.guidanceFallback

/-- Where the first of two stages starts and where it hands over to the second. A partial
denoise skips its share of the steps, to the nearest whole step. -/
def window (steps : UInt32) (denoise : Float) : UInt32 × UInt32 :=
  let skipped :=
    (Decimal.round (Float.ofNat steps.toNat * (1.0 - Decimal.clamp 0.0 1.0 denoise))).toUInt32
  let start := min skipped steps
  (start, max (steps / 2) start)

end Sampling

/-! ## Size -/

namespace AspectRatio

/-- Whether a text is two runs of digits around a colon, with white space around the colon. -/
def isRatio (text : String) : Bool :=
  let cs := text.toList
  let width := cs.takeWhile Text.isDecimal
  match (cs.dropWhile Text.isDecimal).dropWhile Text.isBlank with
  | ':' :: rest =>
    let height := rest.dropWhile Text.isBlank
    !width.isEmpty && !height.isEmpty && height.all Text.isDecimal
  | _ => false

/-- The greatest common divisor, by Euclid's algorithm. -/
def commonDivisor (a b : UInt32) : UInt32 :=
  if b = 0 then a else commonDivisor b (a % b)
  termination_by b.toNat
  decreasing_by
    next hb =>
      have hpos : 0 < b.toNat := Nat.pos_of_ne_zero fun hzero => hb (UInt32.toNat_inj.1 hzero)
      rw [UInt32.toNat_mod]
      exact Nat.mod_lt a.toNat hpos

/-- The text of a ratio. -/
def print (width height : UInt32) : String :=
  toString width.toNat ++ ":" ++ toString height.toNat

/-- The proportions of a size in lowest terms; a size without area has none. -/
def ofSize? (width height : UInt32) : Option String :=
  if 0 < width ∧ 0 < height then
    let d := commonDivisor width height
    some (print (width / d) (height / d))
  else none

/-- The default ratio if it is one, else a square. -/
def configured (s : Settings) : String :=
  match (s.defaultAspectRatio.map Text.trim).filter isRatio with
  | some ratio => Text.withoutBlanks ratio
  | none => "1:1"

/-- The requested ratio, which has to be one unless it is blank, else the default. -/
def resolve (requested : Option String) (s : Settings) : Except ValidationError String :=
  match requested.bind Text.nonBlank? with
  | none => .ok (configured s)
  | some text =>
    if isRatio text then .ok (Text.withoutBlanks text) else .error (.invalidAspectRatio text)

end AspectRatio

namespace Megapixels

/-- A size between 0.1 and 8 megapixels, to four places. -/
def coerce? (value : Float) : Option Float :=
  if 0.1 ≤ value ∧ value ≤ 8.0 then some (Decimal.round (value * 10000.0) / 10000.0) else none

def resolve (requested : Option Float) (s : Settings) : Float :=
  ((requested.bind coerce?).or (coerce? s.defaultMpSize)).getD 1.0

end Megapixels

/-- At least one image is made. -/
def batchSize (requested : Option UInt32) (s : Settings) : UInt32 :=
  max (requested.getD s.defaultBatchSize) 1

/-! ## Model and style -/

/-- The requested model, else the selected one. None is ever guessed. -/
def selectedModel (requested : Option String) (s : Settings) : Except ResourceError Model :=
  match (requested.bind Text.nonBlank?).or (s.selectedModel.bind Text.nonBlank?) with
  | none => .error .noModelSelected
  | some selection => Model.resolve selection

/-- A warning when the engine's files are known and the model is not one of them. -/
def availabilityWarning (s : Settings) (m : Model) : Option String :=
  let known := s.available.forFamily m.family
  if !known.isEmpty && !known.any (fun name => Text.sameLetters name m.filename) then
    some ("Selected model '" ++ m.filename ++
      "' is not currently visible in ComfyUI's model list. " ++
      "Double-check that it is installed and scanned.")
  else none

/-- The requested style, else the default of the family, else none. -/
def requestedStyle (requested : Option String) (s : Settings) (family : Family) : String :=
  ((requested.bind Text.nonBlank?).or (s.family family).defaultStyle).getD "off"

end Renderflow
