import Renderflow.Engine.Url.Percent
import Renderflow.Engine.Url.Punycode
import Renderflow.Text.Basic
import Renderflow.Text.Split

/-!
# Hosts

A host is a domain, an address of four bytes, an address of eight words, or, where the
scheme has no rules for hosts, a text. Domains are kept in ASCII and in lower case, and a
domain whose last label is a number has to be an address.
-/

namespace Renderflow.Url

inductive Host where
  | name (text : String)
  | ipv4 (address : Nat)
  | ipv6 (words : List Nat)
  deriving DecidableEq, Repr

namespace Host

/-! ## Addresses of four bytes -/

/-- A part of an address: hexadecimal after `0x`, octal after `0`, else decimal. -/
def ipv4Part? : List Char → Option Nat
  | [] => none
  | '0' :: 'x' :: rest => Text.valueIn? 16 rest
  | '0' :: 'X' :: rest => Text.valueIn? 16 rest
  | '0' :: c :: rest => Text.valueIn? 8 (c :: rest)
  | cs => Text.valueIn? 10 cs

/-- The parts of a domain; an empty last part is left out. -/
def parts (domain : List Char) : List (List Char) :=
  match (Text.splitBy (· == '.') domain).reverse with
  | [] :: more :: rest => (more :: rest).reverse
  | all => all.reverse

def endsInNumber (domain : List Char) : Bool :=
  match (parts domain).getLast? with
  | none => false
  | some last =>
    (!last.isEmpty && last.all Char.isDigit) || (ipv4Part? last).isSome

/-- The last part fills the bytes that the parts before it leave. -/
def ipv4? (domain : List Char) : Option Nat := do
  let values ← (parts domain).mapM ipv4Part?
  let last ← values.getLast?
  let first := values.dropLast
  if 3 < first.length ∨ first.any (255 < ·) ∨ Nat.pow 256 (4 - first.length) ≤ last then none
  else
    let high := (first.zipIdx).foldl (fun n e => n + e.1 * Nat.pow 256 (3 - e.2)) 0
    some (high + last)

def ipv4Text (address : Nat) : String :=
  ".".intercalate ([3, 2, 1, 0].map fun i => toString (address / Nat.pow 256 i % 256))

/-! ## Addresses of eight words -/

/-- The words read so far, and how many of them stand before the gap, if there is one. -/
structure Words where
  words : List Nat
  gap : Option Nat

/-- Four decimal bytes at the end of an address, as two words. -/
def dottedTail? (cs : List Char) : Option (List Nat) := do
  let bytes ← (Text.splitBy (· == '.') cs).mapM fun part =>
    if part.length > 1 && part.head? == some '0' then none
    else (Text.digits? part).filter (· ≤ 255)
  match bytes with
  | [a, b, c, d] => some [256 * a + b, 256 * c + d]
  | _ => none

def words? : Nat → Words → List Char → Option Words
  | 0, _, _ => none
  | fuel + 1, w, cs =>
    match cs with
    | [] => some w
    | ':' :: rest =>
      if w.words.length = 8 ∨ w.gap.isSome then none
      else words? fuel ⟨w.words ++ [0], some (w.words.length + 1)⟩ rest
    | _ =>
      let digits := (cs.take 4).takeWhile fun c => (Text.hexValue? c).isSome
      let value := (Text.valueIn? 16 digits).getD 0
      if w.words.length = 8 then none
      else match cs.drop digits.length with
        | [] => some { w with words := w.words ++ [value] }
        | ':' :: [] => none
        | ':' :: rest => words? fuel { w with words := w.words ++ [value] } rest
        | '.' :: _ =>
          if digits.isEmpty ∨ 6 < w.words.length then none
          else (dottedTail? cs).map fun tail => { w with words := w.words ++ tail }
        | _ => none

/-- The eight words of an address, the gap filled with zeros. -/
def ipv6? (cs : List Char) : Option (List Nat) := do
  let start ← match cs with
    | ':' :: ':' :: rest => words? (cs.length + 1) ⟨[0], some 1⟩ rest
    | ':' :: _ => none
    | _ => words? (cs.length + 1) ⟨[], none⟩ cs
  match start.gap with
  | some gap =>
    some (start.words.take gap ++ List.replicate (8 - start.words.length) 0 ++ start.words.drop gap)
  | none => if start.words.length = 8 then some start.words else none

def hexText (n : Nat) : String :=
  String.ofList (Nat.toDigits 16 n)

/-- The length of the run of zeros at the start of a list. -/
def zeroRun (l : List Nat) : Nat :=
  (l.takeWhile (· == 0)).length

/-- Where the first of the longest runs of zeros begins. -/
def longestRun (words : List Nat) : Nat :=
  (List.range words.length).foldl (fun best i =>
    if zeroRun (words.drop best) < zeroRun (words.drop i) then i else best) 0

/-- The words in hexadecimal; the first longest run of two or more zeros becomes a gap. -/
def ipv6Text (words : List Nat) : String :=
  let start := longestRun words
  let run := zeroRun (words.drop start)
  let join (l : List Nat) := ":".intercalate (l.map hexText)
  if run < 2 then join words
  else join (words.take start) ++ "::" ++ join (words.drop (start + run))

/-! ## Domains -/

/-- The lower case of the letters of the larger alphabets with regular case. -/
def foldCase (c : Char) : Char :=
  let n := c.toNat
  if 65 ≤ n && n ≤ 90 then Char.ofNat (n + 32)
  else if 0xC0 ≤ n && n ≤ 0xDE && n != 0xD7 then Char.ofNat (n + 32)
  else if 0x391 ≤ n && n ≤ 0x3AB then Char.ofNat (n + 32)
  else if 0x410 ≤ n && n ≤ 0x42F then Char.ofNat (n + 32)
  else if 0x400 ≤ n && n ≤ 0x40F then Char.ofNat (n + 80)
  else if 0x100 ≤ n && n ≤ 0x12F && n % 2 == 0 then Char.ofNat (n + 1)
  else if 0x14A ≤ n && n ≤ 0x177 && n % 2 == 0 then Char.ofNat (n + 1)
  else if 0x139 ≤ n && n ≤ 0x148 && n % 2 == 1 then Char.ofNat (n + 1)
  else if n == 0x178 then Char.ofNat 0xFF
  else if 0x179 ≤ n && n ≤ 0x17E && n % 2 == 1 then Char.ofNat (n + 1)
  else c

/-- What a character of a domain stands for: full-width forms are their plain forms, the
ideographic full stops are dots, and invisible joiners are nothing. -/
def mapChar (c : Char) : List Char :=
  let n := c.toNat
  if n == 0xAD || n == 0x200B || n == 0x2060 || n == 0xFEFF then []
  else if n == 0x3002 || n == 0xFF0E || n == 0xFF61 then ['.']
  else if 0xFF01 ≤ n && n ≤ 0xFF5E then [foldCase (Char.ofNat (n - 0xFEE0))]
  else [foldCase c]

def isForbidden (c : Char) : Bool :=
  c.toNat < 0x21 || c.toNat == 0x7F || "%#/:<>?@[\\]^|".toList.contains c

/-- A label in ASCII. A label that is marked as encoded has to decode to what it encodes. -/
def label? (cs : List Char) : Option (List Char) :=
  match cs with
  | 'x' :: 'n' :: '-' :: '-' :: rest =>
    match Punycode.decode? rest with
    | some decoded =>
      if decoded.any (fun c => 128 ≤ c.toNat) && Punycode.encode decoded == rest then some cs
      else none
    | none => none
  | cs =>
    if cs.all fun c => c.toNat < 128 then some cs
    else some (['x', 'n', '-', '-'] ++ Punycode.encode cs)

/-- The domain in ASCII, unless a character of it is forbidden. -/
def domain? (cs : List Char) : Option (List Char) := do
  let text ← decode? cs
  let labels ← (Text.splitBy (· == '.') (text.toList.flatMap mapChar)).mapM label?
  let ascii := ['.'].intercalate labels
  if ascii.isEmpty || ascii.any isForbidden then none else some ascii

/-! ## Reading and writing -/

/-- The text between brackets. -/
def bracketed? : List Char → Option (List Char)
  | '[' :: rest => if rest.getLast? == some ']' then some rest.dropLast else none
  | _ => none

/-- The host of a scheme with rules for hosts. -/
def special? (cs : List Char) : Option Host :=
  if cs.head? == some '[' then ((bracketed? cs).bind ipv6?).map ipv6
  else do
    let ascii ← domain? cs
    if endsInNumber ascii then (ipv4? ascii).map ipv4 else some (name (String.ofList ascii))

/-- The host of a scheme without rules for hosts. -/
def plain? (cs : List Char) : Option Host :=
  if cs.head? == some '[' then ((bracketed? cs).bind ipv6?).map ipv6
  else if cs.any fun c => "\x00\t\n\r #/:<>?@[\\]^|".toList.contains c then none
  else some (name (encode isControl cs))

def text : Host → String
  | name t => t
  | ipv4 address => ipv4Text address
  | ipv6 words => "[" ++ ipv6Text words ++ "]"

end Host

end Renderflow.Url
