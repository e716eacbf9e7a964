import Renderflow.Decimal.Shortest

/-!
# The text of a double

The shortest digits that read back as the same double. A number whose first digit stands
close to the point is written with a point, as `1000000000000000.0` and `0.00001`; any other
is written with an exponent, whose sign always shows, as `1e+16` and `1.5e-7`.
-/

namespace Renderflow.Decimal

/-- The places of the first digit of a number that is written without an exponent. -/
def leastPlace : Int := -5

def greatestPlace : Int := 15

def zeroRun (n : Nat) : String :=
  String.ofList (List.replicate n '0')

/-- A positive number in digits around a point; at least one digit follows the point. -/
def pointed (digits : List Char) (exponent : Int) : String :=
  let point : Int := digits.length + exponent
  if 0 ≤ exponent then String.ofList digits ++ zeroRun exponent.toNat ++ ".0"
  else if 0 < point then
    String.ofList (digits.take point.toNat) ++ "." ++ String.ofList (digits.drop point.toNat)
  else "0." ++ zeroRun (-point).toNat ++ String.ofList digits

/-- A positive number as one digit, a fraction unless it is empty, and an exponent. -/
def scientific (digits : List Char) (exponent : Int) : String :=
  let place : Int := digits.length + exponent - 1
  let fraction := match digits.tail with
    | [] => ""
    | rest => "." ++ String.ofList rest
  let sign := if place < 0 then "-" else "+"
  String.ofList (digits.take 1) ++ fraction ++ "e" ++ sign ++ toString place.natAbs

/-- The text of a finite double; infinities and NaN have none. -/
def text? (x : Float) : Option String :=
  (Binary.ofFloat? x).map fun b =>
    let sign := if b.negative then "-" else ""
    let s := shortest b
    if s.digits = 0 then sign ++ "0.0"
    else
      let digits := Nat.toDigits 10 s.digits
      let place : Int := digits.length + s.exponent - 1
      if leastPlace ≤ place ∧ place ≤ greatestPlace then sign ++ pointed digits s.exponent
      else sign ++ scientific digits s.exponent

end Renderflow.Decimal
