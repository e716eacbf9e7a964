import Renderflow.Json.Decode
import Renderflow.Text.Digit
import Renderflow.Text.Split

/-!
# UUIDs

A UUID is a word of 128 bits. It is written as 32 lower-case hexadecimal digits in five
groups, and read in any case, with or without hyphens; the hyphenated form may also stand in
braces or after `urn:uuid:`.
-/

namespace Renderflow

structure Uuid where
  bits : BitVec 128
  deriving DecidableEq, Repr

namespace Uuid

def text (u : Uuid) : String :=
  let ds := u.bits.toHex.toList
  let group (first count : Nat) := String.ofList ((ds.drop first).take count)
  "-".intercalate [group 0 8, group 8 4, group 12 4, group 16 4, group 20 12]

/-- Reads 32 digits. -/
def simple? (cs : List Char) : Option Uuid :=
  if cs.length = 32 then (Text.valueIn? 16 cs).map fun n => ⟨.ofNat 128 n⟩ else none

/-- Reads five groups of digits of the right lengths. -/
def hyphenated? (cs : List Char) : Option Uuid :=
  let groups := Text.splitBy (· == '-') cs
  if groups.map List.length = [8, 4, 4, 4, 12] then simple? groups.flatten else none

def ofText? (s : String) : Option Uuid :=
  let cs := s.toList
  match cs.length with
  | 32 => simple? cs
  | 36 => hyphenated? cs
  | 38 =>
    if cs.head? = some '{' ∧ cs.getLast? = some '}' then hyphenated? cs.tail.dropLast else none
  | 45 => if Text.startsWith s "urn:uuid:" then hyphenated? (cs.drop 9) else none
  | _ => none

/-- A UUID of random bits, marked as such. -/
def ofRandom (bits : BitVec 128) : Uuid :=
  let version : BitVec 128 := 0xF <<< 76
  let variant : BitVec 128 := 0x3 <<< 62
  ⟨(bits &&& ~~~(version ||| variant)) ||| (0x4 <<< 76) ||| (0x2 <<< 62)⟩

def toJson (u : Uuid) : Json :=
  .str u.text

def ofJson? (j : Json) : Option Uuid :=
  j.asString?.bind ofText?

end Uuid

end Renderflow
