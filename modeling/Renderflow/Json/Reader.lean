import Renderflow.Decimal.Binary
import Renderflow.Json.Basic
import Renderflow.Text.Digit

/-!
# Reading JSON text

The grammar is the strict one: no byte order mark, no leading zeros, no comma at the end,
no raw control character in a string, no half of a surrogate pair, nothing after the value.
Arrays and objects nest at most 127 deep.

A whole number that fits a signed or unsigned word of 64 bits is read exactly. Any other
number is read as a double: the leading digits that fit a word are taken as the significand,
rounded once, and scaled by one power of ten.
-/

namespace Renderflow.Json

def isSpace (c : Char) : Bool :=
  c == ' ' || c == '\n' || c == '\t' || c == '\r'

def skipSpace (cs : List Char) : List Char :=
  cs.dropWhile isSpace

/-! ## Numbers -/

/-- Appends digits to a word while it has room, and counts the digits left over. -/
def appendDigits (word : Nat) : List Char → Nat × Nat
  | [] => (word, 0)
  | c :: cs =>
    let next := 10 * word + (c.toNat - 48)
    if next < UInt64.size then appendDigits next cs else (word, cs.length + 1)

def powerOfTen (n : Nat) : Float :=
  Float.ofScientific 1 false n

/-- Divides by a power of ten, in steps of the largest one that is a double. -/
def scaleDown (x : Float) (n : Nat) : Float :=
  if n ≤ 308 then x / powerOfTen n
  else if x == 0.0 then x
  else scaleDown (x / powerOfTen 308) (n - 308)
  termination_by n

/-- Scales by a power of ten; there is no result when it is too large for a double. -/
def scale? (x : Float) (exponent : Int) : Option Float :=
  if exponent < 0 then some (scaleDown x exponent.natAbs)
  else if x == 0.0 then some x
  else if 308 < exponent then none
  else
    let y := x * powerOfTen exponent.natAbs
    if Decimal.isFinite y then some y else none

/-- The double of a number given by its digits and exponent. -/
def double? (negative : Bool) (whole fraction : List Char) (exponent : Int) : Option Json :=
  let (upper, skipped) := appendDigits 0 whole
  let (word, dropped) := appendDigits upper fraction
  let places : Int := (fraction.length : Int) - dropped
  (scale? (Float.ofNat word) (exponent + skipped - places)).map fun x =>
    float (if negative then -x else x)

def whole? (negative : Bool) (digits : List Char) : Option Json :=
  let n := Text.runValue digits
  if negative then
    if n = 0 then some (float (-0.0))
    else if Int64.minValue.toInt ≤ -n then some (int (-n))
    else double? true digits [] 0
  else if n < UInt64.size then some (int n)
  else double? false digits [] 0

/-- The digits of an exponent, with what follows them. -/
def exponentDigits? (negative : Bool) (cs : List Char) : Option (Int × List Char) :=
  let digits := cs.takeWhile Char.isDigit
  if digits.isEmpty then none
  else
    let n : Int := Text.runValue digits
    some (if negative then -n else n, cs.dropWhile Char.isDigit)

/-- An exponent after its mark, with what follows it. -/
def exponentPart? : List Char → Option (Int × List Char)
  | '-' :: cs => exponentDigits? true cs
  | '+' :: cs => exponentDigits? false cs
  | cs => exponentDigits? false cs

def isExponentMark (c : Char) : Bool :=
  c == 'e' || c == 'E'

/-- A number whose digits have been read: as it is, or scaled if an exponent follows. -/
def scaledNumber? (plain : Option Json) (scaled : Int → Option Json) :
    List Char → Option (Json × List Char)
  | c :: rest =>
    if isExponentMark c then do
      let (exponent, rest) ← exponentPart? rest
      let x ← scaled exponent
      pure (x, rest)
    else plain.map (·, c :: rest)
  | [] => plain.map (·, [])

/-- A number at the start of the text, after its sign, with what follows it. -/
def unsignedNumber? (negative : Bool) (cs : List Char) : Option (Json × List Char) :=
  let whole := cs.takeWhile Char.isDigit
  if whole.isEmpty || (whole.length > 1 && whole.head? == some '0') then none
  else match cs.dropWhile Char.isDigit with
    | '.' :: rest =>
      let fraction := rest.takeWhile Char.isDigit
      if fraction.isEmpty then none
      else scaledNumber? (double? negative whole fraction 0) (double? negative whole fraction)
        (rest.dropWhile Char.isDigit)
    | rest => scaledNumber? (whole? negative whole) (double? negative whole []) rest

def number? : List Char → Option (Json × List Char)
  | '-' :: cs => unsignedNumber? true cs
  | cs => unsignedNumber? false cs

/-! ## Strings -/

/-- A code unit in four hexadecimal digits. -/
def hexUnit? (a b c d : Char) : Option Nat :=
  Text.valueIn? 16 [a, b, c, d]

def simpleEscape? : Char → Option Char
  | '"' => some '"'
  | '\\' => some '\\'
  | '/' => some '/'
  | 'b' => some '\x08'
  | 'f' => some '\x0c'
  | 'n' => some '\n'
  | 'r' => some '\r'
  | 't' => some '\t'
  | _ => none

/-- The character of a code unit, with the second unit of its pair when it needs one. -/
def escapedUnit? (unit : Nat) (rest : List Char) : Option (Char × List Char) :=
  if 0xDC00 ≤ unit ∧ unit ≤ 0xDFFF then none
  else if 0xD800 ≤ unit ∧ unit ≤ 0xDBFF then
    match rest with
    | '\\' :: 'u' :: a :: b :: c :: d :: rest => do
      let second ← hexUnit? a b c d
      if 0xDC00 ≤ second ∧ second ≤ 0xDFFF then
        some (Char.ofNat (0x10000 + 1024 * (unit - 0xD800) + (second - 0xDC00)), rest)
      else none
    | _ => none
  else some (Char.ofNat unit, rest)

/-- The rest of a string after its opening quote; the characters read so far are reversed. -/
def stringTail? : Nat → List Char → List Char → Option (String × List Char)
  | 0, _, _ => none
  | fuel + 1, done, cs =>
    match cs with
    | [] => none
    | '"' :: rest => some (String.ofList done.reverse, rest)
    | '\\' :: 'u' :: a :: b :: c :: d :: rest => do
      let unit ← hexUnit? a b c d
      let (ch, rest) ← escapedUnit? unit rest
      stringTail? fuel (ch :: done) rest
    | '\\' :: c :: rest => do
      let ch ← simpleEscape? c
      stringTail? fuel (ch :: done) rest
    | c :: rest => if c.toNat < 32 then none else stringTail? fuel (c :: done) rest

def string? (cs : List Char) : Option (String × List Char) :=
  stringTail? (cs.length + 1) [] cs

/-! ## Values -/

def keyword? (word : String) (value : Json) (cs : List Char) : Option (Json × List Char) :=
  let w := word.toList
  if w.isPrefixOf cs then some (value, cs.drop w.length) else none

mutual

/-- A value at the start of the text. The depth counts the arrays and objects that may
still be opened, plus one. -/
def value? : Nat → Nat → List Char → Option (Json × List Char)
  | 0, _, _ => none
  | fuel + 1, depth, cs =>
    match cs with
    | '"' :: rest => (string? rest).map fun (s, rest) => (str s, rest)
    | '[' :: rest =>
      if depth ≤ 1 then none
      else match skipSpace rest with
        | ']' :: rest => some (arr [], rest)
        | rest => (items? fuel (depth - 1) rest).map fun (l, rest) => (arr l, rest)
    | '{' :: rest =>
      if depth ≤ 1 then none
      else match skipSpace rest with
        | '}' :: rest => some (obj [], rest)
        | rest => (fields? fuel (depth - 1) rest).map fun (l, rest) => (obj l, rest)
    | 'n' :: _ => keyword? "null" null cs
    | 't' :: _ => keyword? "true" (bool true) cs
    | 'f' :: _ => keyword? "false" (bool false) cs
    | _ => number? cs

/-- The items of an array up to its closing bracket. -/
def items? : Nat → Nat → List Char → Option (List Json × List Char)
  | 0, _, _ => none
  | fuel + 1, depth, cs => do
    let (item, rest) ← value? fuel depth cs
    match skipSpace rest with
    | ',' :: rest =>
      let (more, rest) ← items? fuel depth (skipSpace rest)
      pure (item :: more, rest)
    | ']' :: rest => pure ([item], rest)
    | _ => none

/-- The fields of an object up to its closing brace. -/
def fields? : Nat → Nat → List Char → Option (List (String × Json) × List Char)
  | 0, _, _ => none
  | fuel + 1, depth, cs =>
    match cs with
    | '"' :: rest => do
      let (key, rest) ← string? rest
      match skipSpace rest with
      | ':' :: rest =>
        let (item, rest) ← value? fuel depth (skipSpace rest)
        match skipSpace rest with
        | ',' :: rest =>
          let (more, rest) ← fields? fuel depth (skipSpace rest)
          pure ((key, item) :: more, rest)
        | '}' :: rest => pure ([(key, item)], rest)
        | _ => none
      | _ => none
    | _ => none

end

/-- The value that a text writes, if the whole text is one value. -/
def read? (text : String) : Option Json := do
  let cs := skipSpace text.toList
  let (value, rest) ← value? (2 * cs.length + 2) 128 cs
  if (skipSpace rest).isEmpty then some value else none

end Renderflow.Json
