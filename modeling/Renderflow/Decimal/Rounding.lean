import Renderflow.Decimal.Binary

/-!
# Rounding to whole numbers and to fixed places

Both roundings look at the exact value. Rounding to a whole number takes a half away
from zero; writing with fixed places takes it to the even neighbour.
-/

namespace Renderflow.Decimal

/-- The whole number nearest to `num / den`, a half going up. -/
def divHalfUp (num den : Nat) : Nat :=
  (2 * num + den) / (2 * den)

/-- The whole number nearest to `num / den`, a half going to the even neighbour. -/
def divHalfEven (num den : Nat) : Nat :=
  let q := num / den
  let twice := 2 * (num % den)
  if twice < den then q
  else if den < twice then q + 1
  else if q % 2 = 0 then q
  else q + 1

def withSign (negative : Bool) (x : Float) : Float :=
  if negative then -x else x

/-- The nearest whole double, a half going away from zero. A zero keeps the sign of what
was rounded to it; infinities and NaN stay as they are. -/
def round (x : Float) : Float :=
  match Binary.ofFloat? x with
  | none => x
  | some b =>
    if 0 ≤ b.exponent then x
    else withSign b.negative (Float.ofNat (divHalfUp b.quotient.1 b.quotient.2))

/-- The double held within two bounds. A NaN stays a NaN. -/
def clamp (low high x : Float) : Float :=
  if x < low then low else if high < x then high else x

def padLeft (width : Nat) (cs : List Char) : List Char :=
  List.replicate (width - cs.length) '0' ++ cs

/-- The value written with a fixed number of places after the point. -/
def fixed (places : Nat) (x : Float) : String :=
  match Binary.ofFloat? x with
  | none => if x != x then "NaN" else if signBit x then "-inf" else "inf"
  | some b =>
    let units := divHalfEven (b.quotient.1 * Nat.pow 10 places) b.quotient.2
    let digits := padLeft (places + 1) (Nat.toDigits 10 units)
    let whole := digits.take (digits.length - places)
    let rest := digits.drop (digits.length - places)
    String.ofList ((if b.negative then ['-'] else []) ++ whole ++
      (if places = 0 then [] else '.' :: rest))

theorem divHalfUp_near (num den : Nat) (pos : 0 < den) :
    2 * num < 2 * den * divHalfUp num den + den + 1 ∧
      2 * den * divHalfUp num den ≤ 2 * num + den := by
  unfold divHalfUp
  have h := Nat.div_add_mod (2 * num + den) (2 * den)
  have r := Nat.mod_lt (2 * num + den) (show 0 < 2 * den by omega)
  omega

end Renderflow.Decimal
