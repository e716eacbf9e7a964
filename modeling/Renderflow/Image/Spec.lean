import Renderflow.Decimal.Rounding
import Renderflow.Error
import Renderflow.Text.Basic
import Renderflow.Text.Digit
import Renderflow.Text.Pattern
import Renderflow.Text.Split

/-!
# Image specs and sizes

A spec is a strength from 0 to 100, white space, and the location of an image. The location may
stand in double quotes; without quotes it reaches to the end of the text and has no line break.
A size is a width and a height around the letter `x`, in either case and with white space around
each of them.
-/

namespace Renderflow.Image

/-! ## Specs -/

structure Spec where
  strength : UInt8
  location : String
  deriving DecidableEq, Repr

/-- The part of the diffusion that an image strength in percent leaves to be run. -/
def denoise (strength : UInt8) : Float :=
  let part := Decimal.round ((1.0 - Float.ofNat strength.toNat / 100.0) * 100.0) / 100.0
  Decimal.clamp 0.0 1.0 part

/-- A text in quotes. -/
def quotedPattern : Pattern :=
  .seq (.one (· == '"')) (.seq (.group 2 (.many (· != '"'))) (.one (· == '"')))

/-- A text on one line. -/
def linePattern : Pattern :=
  .group 3 (.many (· != '\n'))

def locationPattern : Pattern :=
  .either quotedPattern linePattern

/-- Digits, white space and a location. -/
def specPattern : Pattern :=
  .seq (.group 1 (.many Text.isDecimal)) (.seq (.many Text.isBlank) locationPattern)

/-- The digits and the location of a spec, without the quotes. -/
def parts? (spec : String) : Option (String × String) := do
  let groups ← specPattern.captures? (Text.trim spec)
  let digits ← groups.lookup 1
  let location := ((groups.lookup 2).or (groups.lookup 3)).getD []
  pure (String.ofList digits, String.ofList location)

def Spec.parse (text : String) : Except ValidationError Spec :=
  match parts? text with
  | none => .error (.invalidImageSpec (Text.trim text))
  | some (digits, location) =>
    match (Text.uint8? digits).filter (· ≤ 100) with
    | none => .error (.strengthOutOfRange digits)
    | some strength =>
      let location := Text.trim location
      if location.isEmpty then .error (.invalidImageSpec (Text.trim text))
      else .ok { strength, location }

/-! ## Sizes -/

/-- The two sides of a size, around the first `x`. -/
def sides? (text : String) : Option (UInt32 × UInt32) := do
  let (width, height) ← Text.cutFirst? 'x' (Text.lower (Text.trim text))
  pure (← Text.uint32? (Text.trim width), ← Text.uint32? (Text.trim height))

/-- A size neither side of which is zero. -/
def size? (text : String) : Option (UInt32 × UInt32) :=
  (sides? text).filter fun s => 0 < s.1 && 0 < s.2

end Renderflow.Image
