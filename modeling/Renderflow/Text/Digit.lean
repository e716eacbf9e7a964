/-!
# Decimal digits

The Unicode class `Nd` is made of runs of ten characters, zero to nine. Only the first
of these runs, that of ASCII, is used to write numbers that are read as numbers.
-/

namespace Renderflow.Text

/-- The code points of the zeros of `Nd`, in order. -/
def zeros : List Nat :=
  [0x30, 0x660, 0x6F0, 0x7C0, 0x966, 0x9E6, 0xA66, 0xAE6, 0xB66, 0xBE6, 0xC66, 0xCE6,
   0xD66, 0xDE6, 0xE50, 0xED0, 0xF20, 0x1040, 0x1090, 0x17E0, 0x1810, 0x1946, 0x19D0,
   0x1A80, 0x1A90, 0x1B50, 0x1BB0, 0x1C40, 0x1C50, 0xA620, 0xA8D0, 0xA900, 0xA9D0,
   0xA9F0, 0xAA50, 0xABF0, 0xFF10, 0x104A0, 0x10D30, 0x10D40, 0x11066, 0x110F0, 0x11136,
   0x111D0, 0x112F0, 0x11450, 0x114D0, 0x11650, 0x116C0, 0x116D0, 0x116DA, 0x11730,
   0x118E0, 0x11950, 0x11BF0, 0x11C50, 0x11D50, 0x11DA0, 0x11F50, 0x16130, 0x16A60,
   0x16AC0, 0x16B50, 0x16D70, 0x1CCF0, 0x1D7CE, 0x1D7D8, 0x1D7E2, 0x1D7EC, 0x1D7F6,
   0x1E140, 0x1E2F0, 0x1E4F0, 0x1E5F1, 0x1E950, 0x1FBF0]

/-- Whether a character is of the class `Nd`. -/
def isDecimal (c : Char) : Bool :=
  zeros.any (fun z => z ≤ c.toNat && c.toNat < z + 10)

/-- The number that a run of ASCII digits writes; the empty run counts as zero. -/
def runValue (cs : List Char) : Nat :=
  cs.foldl (fun n c => 10 * n + (c.toNat - 48)) 0

/-- The number that a text writes if it is a run of ASCII digits, but not the empty one. -/
def digits? (cs : List Char) : Option Nat :=
  if cs.isEmpty || !cs.all Char.isDigit then none else some (runValue cs)

/-- Reads digits after an optional plus sign, up to a limit. -/
def natural? (limit : Nat) (s : String) : Option Nat :=
  let n := match s.toList with
    | '+' :: rest => digits? rest
    | cs => digits? cs
  n.filter (· ≤ limit)

def uint8? (s : String) : Option UInt8 :=
  (natural? 255 s).map UInt8.ofNat

def uint32? (s : String) : Option UInt32 :=
  (natural? (UInt32.size - 1) s).map UInt32.ofNat

/-- Reads digits after an optional sign. -/
def int64? (s : String) : Option Int64 :=
  match s.toList with
  | '-' :: rest =>
    ((digits? rest).filter fun n => Int64.minValue.toInt ≤ -n).map fun n => Int64.ofInt (-n)
  | _ => (natural? Int64.maxValue.toInt.toNat s).map fun n => Int64.ofInt n

/-- The value of a hexadecimal digit. -/
def hexValue? (c : Char) : Option Nat :=
  if c.isDigit then some (c.toNat - 48)
  else if 'a' ≤ c ∧ c ≤ 'f' then some (c.toNat - 87)
  else if 'A' ≤ c ∧ c ≤ 'F' then some (c.toNat - 55)
  else none

/-- The number that a run of digits of a base up to sixteen writes; the empty run counts as
zero. -/
def valueIn? (base : Nat) (cs : List Char) : Option Nat :=
  cs.foldlM (fun n c => ((hexValue? c).filter (· < base)).map (base * n + ·)) 0

theorem isDecimal_of_isDigit {c : Char} (h : c.isDigit = true) : isDecimal c = true := by
  simp only [Char.isDigit, Bool.and_eq_true, decide_eq_true_eq] at h
  have low : 48 ≤ c.toNat := h.1
  have high : c.toNat ≤ 57 := h.2
  simp only [isDecimal, zeros, List.any_cons, Bool.or_eq_true, Bool.and_eq_true,
    decide_eq_true_eq]
  exact .inl ⟨low, by omega⟩

end Renderflow.Text
