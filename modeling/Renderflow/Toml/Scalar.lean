import Renderflow.Decimal.Reading
import Renderflow.Json.Basic
import Renderflow.Toml.Text

/-!
# Numbers, truth values and dates of TOML

Whole numbers are words of 64 bits with a sign. A date or a time of day becomes an object
with its text, so that no field takes it for a string.
-/

namespace Renderflow.Toml

/-! ## Digits -/

/-- Digits, with single underscores between them, after a first digit. -/
def moreDigits (isDigit : Char → Bool) : List Char → List Char × List Char
  | '_' :: c :: rest =>
    if isDigit c then
      let (digits, rest) := moreDigits isDigit rest
      (c :: digits, rest)
    else ([], '_' :: c :: rest)
  | c :: rest =>
    if isDigit c then
      let (digits, rest) := moreDigits isDigit rest
      (c :: digits, rest)
    else ([], c :: rest)
  | [] => ([], [])

def digits (isDigit : Char → Bool) : Scan (List Char) := do
  let first ← Scan.next
  if isDigit first then
    let more ← (fun cs => some (moreDigits isDigit cs) : Scan (List Char))
    pure (first :: more)
  else failure

/-- Decimal digits; a zero stands alone. -/
def wholeDigits : Scan (List Char) := do
  if ← Scan.skip? "0" then pure ['0'] else digits Char.isDigit

/-- Whether a minus sign stands here; a sign is skipped. -/
def negative? : Scan Bool := do
  if ← Scan.skip? "-" then pure true
  else
    discard (Scan.skip? "+")
    pure false

/-! ## Numbers -/

def exponent : Scan (List Char) := do
  match ← Scan.next with
  | 'e' | 'E' =>
    let sign := if ← negative? then ['-'] else []
    pure ('e' :: sign ++ (← digits Char.isDigit))
  | _ => failure

def fraction : Scan (List Char) := do
  Scan.expect "."
  let part ← digits Char.isDigit
  pure ('.' :: part ++ (← exponent <|> pure []))

/-- A number with a fraction or an exponent. One beyond the greatest double is refused,
though not one below the least. -/
def decimal : Scan Json := do
  let sign := if ← negative? then ['-'] else []
  let whole ← wholeDigits
  let rest ← exponent <|> fraction
  match Decimal.float? (String.ofList (sign ++ whole ++ rest)) with
  | some x => if x == Decimal.infinity then failure else pure (.float x)
  | none => failure

def special : Scan Json := do
  let negative ← negative?
  let x ← (do Scan.expect "inf"; pure Decimal.infinity) <|>
    (do Scan.expect "nan"; pure Decimal.notANumber)
  pure (.float (if negative then -x else x))

/-- A number of a base given by its mark. -/
def based (mark : String) (base : Nat) : Scan Int := do
  Scan.expect mark
  let isDigit (c : Char) : Bool := (Text.valueIn? base [c]).isSome
  match Text.valueIn? base (← digits isDigit) with
  | some n => pure n
  | none => failure

def signed : Scan Int := do
  let negative ← negative?
  let n : Int := Text.runValue (← wholeDigits)
  pure (if negative then -n else n)

def whole : Scan Json := do
  let n ← based "0x" 16 <|> based "0o" 8 <|> based "0b" 2 <|> signed
  if Int64.minValue.toInt ≤ n ∧ n ≤ Int64.maxValue.toInt then pure (.int n) else failure

/-! ## Dates -/

/-- A number of exactly so many digits within two bounds. -/
def field (count low high : Nat) : Scan Nat := do
  match Text.digits? (← Scan.take count) with
  | some n => if low ≤ n ∧ n ≤ high then pure n else failure
  | none => failure

def daysIn (year month : Nat) : Nat :=
  if month = 2 then
    if year % 4 = 0 ∧ (year % 100 ≠ 0 ∨ year % 400 = 0) then 29 else 28
  else if month = 4 ∨ month = 6 ∨ month = 9 ∨ month = 11 then 30
  else 31

def date : Scan Unit := do
  let year ← field 4 0 9999
  Scan.expect "-"
  let month ← field 2 1 12
  Scan.expect "-"
  discard (field 2 1 (daysIn year month))

/-- A time of day; a minute may have a leap second. -/
def time : Scan Unit := do
  discard (field 2 0 23)
  Scan.expect ":"
  discard (field 2 0 59)
  Scan.expect ":"
  discard (field 2 0 60)
  if ← Scan.skip? "." then discard (Scan.takeSome Char.isDigit)

def offset : Scan Unit := do
  match ← Scan.next with
  | 'Z' | 'z' => pure ()
  | '+' | '-' =>
    discard (field 2 0 23)
    Scan.expect ":"
    discard (field 2 0 59)
  | _ => failure

def timeAfterDate : Scan Unit := do
  match ← Scan.next with
  | 'T' | 't' | ' ' =>
    time
    offset <|> pure ()
  | _ => failure

def moment : Scan Json := do
  let before ← get
  (do date; timeAfterDate <|> pure ()) <|> time
  let length := before.length - (← get).length
  pure (.obj [("$__toml_private_datetime", .str (String.ofList (before.take length)))])

def truth : Scan Json :=
  (do Scan.expect "true"; pure (.bool true)) <|> (do Scan.expect "false"; pure (.bool false))

def scalar : Scan Json := do
  match ← Scan.peek? with
  | some '"' | some '\x27' => pure (.str (← string))
  | _ => moment <|> decimal <|> special <|> whole <|> truth

end Renderflow.Toml
