/-!
# Punycode

A label of a domain name with characters beyond ASCII is written as its ASCII characters
followed by the positions of the others, as numbers of variable length in base 36.
-/

namespace Renderflow.Url.Punycode

def digitChar (d : Nat) : Char :=
  if d < 26 then Char.ofNat (97 + d) else Char.ofNat (22 + d)

def digitValue? (c : Char) : Option Nat :=
  if 'a' ≤ c ∧ c ≤ 'z' then some (c.toNat - 97)
  else if 'A' ≤ c ∧ c ≤ 'Z' then some (c.toNat - 65)
  else if c.isDigit then some (c.toNat - 22)
  else none

/-- The threshold of a digit, between 1 and 26. -/
def threshold (place bias : Nat) : Nat :=
  min 26 (max 1 (place - bias))

/-- Scales a difference down, counting the places that are saved. -/
def scaleDown : Nat → Nat → Nat → Nat
  | 0, delta, place => place + 36 * delta / (delta + 38)
  | fuel + 1, delta, place =>
    if 455 < delta then scaleDown fuel (delta / 35) (place + 36)
    else place + 36 * delta / (delta + 38)

/-- The bias after a difference, for the number of characters written so far. -/
def adapt (delta count : Nat) (first : Bool) : Nat :=
  let d := if first then delta / 700 else delta / 2
  scaleDown 16 (d + d / count) 0

/-- A number in digits of variable weight. -/
def number (bias : Nat) : Nat → Nat → Nat → List Char
  | 0, _, _ => []
  | fuel + 1, place, q =>
    let t := threshold place bias
    if q < t then [digitChar q]
    else digitChar (t + (q - t) % (36 - t)) :: number bias fuel (place + 36) ((q - t) / (36 - t))

structure State where
  delta : Nat
  bias : Nat
  count : Nat
  written : List Char

/-- Takes one character of the label into account, while the code point `m` is written. -/
def step (m basic : Nat) (s : State) (c : Char) : State :=
  if c.toNat < m then { s with delta := s.delta + 1 }
  else if c.toNat = m then
    { delta := 0
      bias := adapt s.delta (s.count + 1) (s.count = basic)
      count := s.count + 1
      written := s.written ++ number s.bias 16 36 s.delta }
  else s

def insertSorted (n : Nat) : List Nat → List Nat
  | [] => [n]
  | m :: rest =>
    if n < m then n :: m :: rest else if n = m then m :: rest else m :: insertSorted n rest

/-- Writes the code points in increasing order, each at all its positions. -/
def writeAll (label : List Char) (basic : Nat) : List Nat → Nat → State → State
  | [], _, s => s
  | m :: rest, n, s =>
    let s := label.foldl (step m basic) { s with delta := s.delta + (m - n) * (s.count + 1) }
    writeAll label basic rest (m + 1) { s with delta := s.delta + 1 }

/-- The label without its mark `xn--`. -/
def encode (label : List Char) : List Char :=
  let ascii := label.filter fun c => c.toNat < 128
  let others := (label.filter fun c => 128 ≤ c.toNat).foldl (fun l c => insertSorted c.toNat l) []
  let start := if ascii.isEmpty then [] else ascii ++ ['-']
  (writeAll label ascii.length others 128 ⟨0, 72, ascii.length, start⟩).written

/-- A number at the start of the digits, with what follows it. -/
def readNumber? (bias : Nat) : List Char → Nat → Nat → Nat → Option (Nat × List Char)
  | [], _, _, _ => none
  | c :: rest, place, weight, sum => do
    let d ← digitValue? c
    let sum := sum + d * weight
    let t := threshold place bias
    if d < t then some (sum, rest)
    else readNumber? bias rest (place + 36) (weight * (36 - t)) sum

/-- Inserts the characters that the digits describe. -/
def readAll? : Nat → List Char → Nat → Nat → Nat → List Char → Option (List Char)
  | 0, _, _, _, _, _ => none
  | _ + 1, [], _, _, _, out => some out
  | fuel + 1, digits, n, i, bias, out => do
    let (delta, rest) ← readNumber? bias digits 36 1 0
    let size := out.length + 1
    let position := i + delta
    let code := n + position / size
    let place := position % size
    if code < 0x110000 ∧ (Char.ofNat code).toNat = code then
      readAll? fuel rest code (place + 1) (adapt delta size (i = 0))
        (out.take place ++ Char.ofNat code :: out.drop place)
    else none

/-- The label that was written, without its mark. -/
def decode? (text : List Char) : Option (List Char) :=
  let (start, digits) := match (text.reverse.dropWhile (· != '-')).reverse with
    | [] => ([], text)
    | head => (head.dropLast, text.drop head.length)
  if start.all fun c => c.toNat < 128 then readAll? (digits.length + 1) digits 128 0 72 start
  else none

end Renderflow.Url.Punycode
