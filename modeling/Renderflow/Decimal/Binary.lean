/-!
# The exact value of a double

A finite double is a whole number times a power of two. The other modules of this
directory round and write that value in exact arithmetic on whole numbers.
-/

namespace Renderflow.Decimal

/-- The number `mantissa * 2 ^ exponent`, or its negative. -/
structure Binary where
  negative : Bool
  mantissa : Nat
  exponent : Int
  deriving DecidableEq, Repr

def signBit (x : Float) : Bool :=
  x.toBits.toNat >>> 63 == 1

def exponentField (x : Float) : Nat :=
  x.toBits.toNat >>> 52 % 2048

def fractionField (x : Float) : Nat :=
  x.toBits.toNat % (1 <<< 52)

/-- Neither an infinity nor a NaN. -/
def isFinite (x : Float) : Bool :=
  exponentField x != 2047

/-- The exact value of a finite double. Subnormal numbers share the least exponent. -/
def Binary.ofFloat? (x : Float) : Option Binary :=
  if isFinite x then
    some
      { negative := signBit x
        mantissa := if exponentField x = 0 then fractionField x else fractionField x + (1 <<< 52)
        exponent := (max (exponentField x) 1 : Nat) - 1075 }
  else none

/-- The magnitude as a quotient of whole numbers. -/
def Binary.quotient (b : Binary) : Nat × Nat :=
  (b.mantissa <<< b.exponent.toNat, 1 <<< (-b.exponent).toNat)

def infinity : Float := Float.ofBits 0x7FF0000000000000

def notANumber : Float := Float.ofBits 0x7FF8000000000000

end Renderflow.Decimal
