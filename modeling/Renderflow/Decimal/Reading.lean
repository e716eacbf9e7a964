import Renderflow.Decimal.Binary
import Renderflow.Text.Basic
import Renderflow.Text.Digit

/-!
# Reading a double

A text is a sign, digits around a point and an exponent, each part optional, or one of
the names of the infinities and of NaN. The result is the double nearest to the number.
-/

namespace Renderflow.Decimal

/-- The double nearest to `digits * 10 ^ exponent`. Exponents far outside the range of
doubles are answered without computing the power. -/
def nearest (digits : Nat) (exponent : Int) : Float :=
  let place : Int := (Nat.toDigits 10 digits).length + exponent
  if digits = 0 ∨ place < -400 then 0.0
  else if 400 < place then infinity
  else Float.ofScientific digits (exponent < 0) exponent.natAbs

/-- The exponent that follows the digits of a number, if the rest is one. -/
def exponent? : List Char → Option Int
  | [] => some 0
  | mark :: rest =>
    if mark = 'e' ∨ mark = 'E' then
      match rest with
      | '-' :: ds => (Text.digits? ds).map (fun n => -(n : Int))
      | '+' :: ds => (Text.digits? ds).map Int.ofNat
      | ds => (Text.digits? ds).map Int.ofNat
    else none

def unsigned? (cs : List Char) : Option Float :=
  let whole := cs.takeWhile Char.isDigit
  let (fraction, tail) := match cs.dropWhile Char.isDigit with
    | '.' :: rest => (rest.takeWhile Char.isDigit, rest.dropWhile Char.isDigit)
    | rest => ([], rest)
  if whole.isEmpty && fraction.isEmpty then none
  else (exponent? tail).map fun e =>
    nearest (Text.runValue (whole ++ fraction)) (e - fraction.length)

def magnitude? (cs : List Char) : Option Float :=
  let name := Text.lower (String.ofList cs)
  if name = "inf" ∨ name = "infinity" then some infinity
  else if name = "nan" then some notANumber
  else unsigned? cs

/-- Reads a double. Blanks, digit separators and hexadecimal digits are refused. -/
def float? (s : String) : Option Float :=
  match s.toList with
  | '-' :: cs => (magnitude? cs).map Float.neg
  | '+' :: cs => magnitude? cs
  | cs => magnitude? cs

end Renderflow.Decimal
