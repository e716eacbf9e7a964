import Renderflow.Decimal.Reading
import Renderflow.Json.Basic
import Renderflow.Text.Basic
import Renderflow.Text.Split
import Renderflow.Toml.Text

/-!
# Environment variables

A variable whose name begins with `TENOS_` sets a field of the configuration; double
underscores and dots in its name lead into objects. Its text is a truth value, a number, an
array in brackets, an object in braces, a string in quotes, a character in apostrophes, or
else itself.
-/

namespace Renderflow.Variable

def isSpace (c : Char) : Bool :=
  c == ' ' || c == '\t' || c == '\n' || c == '\r' || c == '\x0c'

def skipSpaces : Scan Unit :=
  Scan.dropWhile isSpace

def isPlain (c : Char) : Bool :=
  !",[]\x7b\x7d".toList.contains c

/-- The value of a text without quotes and brackets. Only a text with a point can be a
number with a fraction, so an exponent alone does not make one. -/
def plain (text : String) : Json :=
  let fraction := if text.toList.contains '.' then Decimal.float? text else none
  match fraction with
  | some x => .float x
  | none =>
    match Text.natural? (UInt64.size - 1) text with
    | some n => .int n
    | none =>
      match Text.int64? text with
      | some n => .int n.toInt
      | none => .str text

def isKey (c : Char) : Bool :=
  c.isAlphanum || c == '_' || c == '-'

def key : Scan String := do
  skipSpaces
  let name ← if (← Scan.peek?) == some '"' then Toml.basicString
    else String.ofList <$> Scan.takeSome isKey
  skipSpaces
  pure name

mutual

def value : Nat → Scan Json
  | 0 => failure
  | fuel + 1 => do
    skipSpaces
    let v ← do
      if ← Scan.skip? "true" then pure (.bool true)
      else if ← Scan.skip? "false" then pure (.bool false)
      else if ← Scan.skip? "[" then pure (.arr (← items fuel))
      else if ← Scan.skip? "\x7b" then pure (.obj (← fields fuel))
      else if (← Scan.peek?) == some '"' then pure (.str (← Toml.basicString))
      else if ← Scan.skip? "\x27" then
        let c ← Scan.next
        Scan.expect "\x27"
        pure (.str (String.singleton c))
      else pure (plain (Text.trim (String.ofList (← Scan.takeWhile isPlain))))
    skipSpaces
    pure v

/-- The items of an array up to its closing bracket, which a comma may precede. -/
def items : Nat → Scan (List Json)
  | 0 => failure
  | fuel + 1 => do
    if ← Scan.skip? "]" then pure []
    else
      let item ← value fuel
      if ← Scan.skip? "," then pure (item :: (← items fuel))
      else
        Scan.expect "]"
        pure [item]

/-- The fields of an object up to its closing brace, which a comma may precede. -/
def fields : Nat → Scan (List (String × Json))
  | 0 => failure
  | fuel + 1 => do
    if ← Scan.skip? "\x7d" then pure []
    else
      let name ← key
      Scan.expect "="
      let item ← value fuel
      if ← Scan.skip? "," then pure ((name, item) :: (← fields fuel))
      else
        Scan.expect "\x7d"
        pure [(name, item)]

end

/-- The value of a text; a text with no other reading is itself. -/
def ofText (text : String) : Json :=
  let cs := text.toList
  ((Scan.all? (value (2 * cs.length + 2)) cs).map Json.canonical).getD (.str text)

/-! ## Names -/

/-- A text cut at each pair of underscores and at each dot. -/
def cut : List Char → List (List Char)
  | '_' :: '_' :: rest => [] :: cut rest
  | '.' :: rest => [] :: cut rest
  | c :: rest =>
    match cut rest with
    | [] => [[c]]
    | part :: parts => (c :: part) :: parts
  | [] => [[]]

/-- The fields that a name leads through, in lower case; each has to be named. -/
def path? (name : String) : Option (List String) :=
  let whole := Text.lower (Text.trim name)
  if Text.startsWith whole "tenos_" then
    let parts := (cut (Text.trim (String.ofList (whole.toList.drop 6))).toList).map String.ofList
    if parts.contains "" then none else some parts
  else none

/-- A value below nested objects. -/
def nest (path : List String) (v : Json) : Json :=
  path.foldr (fun name v => .obj [(name, v)]) v

end Renderflow.Variable
