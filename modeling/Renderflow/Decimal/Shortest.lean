import Renderflow.Decimal.Binary

/-!
# The shortest decimal of a double

Of all decimals that read back as a given double, the shortest ones are those with the
fewest digits, and of these the nearest is taken. The search walks the decimal grids
from coarse to fine and tests the two neighbours of the value on each.
-/

namespace Renderflow.Decimal

/-- The number `digits * 10 ^ exponent`. -/
structure Scaled where
  digits : Nat
  exponent : Int
  deriving DecidableEq, Repr

def digitCount (n : Nat) : Nat :=
  (Nat.toDigits 10 n).length

/-- The `k` with `10 ^ (k - 1) ≤ num / den < 10 ^ k`, for a positive quotient. -/
def magnitude (num den : Nat) : Int :=
  let k : Int := (digitCount num : Int) - digitCount den
  if num * Nat.pow 10 (-k).toNat < den * Nat.pow 10 k.toNat then k else k + 1

/-- Drops the zeros at the end of the digits. -/
def dropZeros : Nat → Scaled → Scaled
  | 0, s => s
  | fuel + 1, s =>
    if s.digits ≠ 0 ∧ s.digits % 10 = 0 then dropZeros fuel ⟨s.digits / 10, s.exponent + 1⟩
    else s

/-- The positive reals that round to one double, in quarters of its last binary place,
with the ends included when the mantissa is even. -/
structure Interval where
  low : Nat
  value : Nat
  high : Nat
  closed : Bool
  exponent : Int

/-- Below a power of two the neighbours stand half as far apart. -/
def Interval.ofBinary (b : Binary) : Interval :=
  { low := 4 * b.mantissa - (if b.mantissa = 1 <<< 52 ∧ -1074 < b.exponent then 1 else 2)
    value := 4 * b.mantissa
    high := 4 * b.mantissa + 2
    closed := b.mantissa % 2 == 0
    exponent := b.exponent - 2 }

/-- The grid point nearest to the value among its two neighbours on the grid with spacing
`10 ^ place`, if one of them lies in the interval. -/
def Interval.gridPoint? (i : Interval) (place : Int) : Option Scaled :=
  let unit := Nat.pow 10 place.toNat <<< (-i.exponent).toNat
  let scale := Nat.pow 10 (-place).toNat <<< i.exponent.toNat
  let value := i.value * scale
  let below := value / unit
  let above := below + 1
  let inside (d : Nat) : Bool :=
    if i.closed then i.low * scale ≤ d * unit && d * unit ≤ i.high * scale
    else i.low * scale < d * unit && d * unit < i.high * scale
  let down := value - below * unit
  let up := above * unit - value
  let downFirst := down < up || (down == up && below % 2 == 0)
  if inside below && (downFirst || !inside above) then some ⟨below, place⟩
  else if inside above then some ⟨above, place⟩
  else none

/-- Seventeen digits always suffice, so the search ends there. -/
def Interval.search (i : Interval) (top : Int) : Nat → Int → Scaled
  | 0, n => ⟨i.value, top - n⟩
  | fuel + 1, n =>
    match i.gridPoint? (top - n) with
    | some s => s
    | none => i.search top fuel (n + 1)

/-- The shortest decimal of a magnitude, without zeros at the end of its digits. -/
def shortest (b : Binary) : Scaled :=
  if b.mantissa = 0 then ⟨0, 0⟩
  else
    let s := (Interval.ofBinary b).search (magnitude b.quotient.1 b.quotient.2) 17 1
    dropZeros (digitCount s.digits) s

end Renderflow.Decimal
