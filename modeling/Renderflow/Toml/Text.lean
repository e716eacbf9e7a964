import Renderflow.Text.Digit
import Renderflow.Text.Scan

/-!
# The words of TOML

Blanks, line ends, comments, the four kinds of strings, and keys.
-/

namespace Renderflow.Toml

def isBlank (c : Char) : Bool :=
  c == ' ' || c == '\t'

def apostrophe : Char := '\x27'

/-- Whether a character may stand in a text on one line. -/
def isPrintable (c : Char) : Bool :=
  c == '\t' || (0x20 ≤ c.toNat && c.toNat != 0x7F)

def skipBlanks : Scan Unit :=
  Scan.dropWhile isBlank

/-- Skips a line feed, which a carriage return may precede. -/
def newline? : Scan Bool := do
  if ← Scan.skip? "\n" then pure true else Scan.skip? "\r\n"

def skipComment : Scan Unit := do
  if ← Scan.skip? "#" then Scan.dropWhile isPrintable

/-- The end of a line or of the text, with blanks and a comment before it. -/
def endOfLine : Scan Unit := do
  skipBlanks
  skipComment
  if !(← newline?) then
    if (← Scan.peek?).isSome then failure

/-- Skips blanks, line ends, and comments that a line end follows. -/
def skipLines : Nat → Scan Unit
  | 0 => failure
  | fuel + 1 => do
    skipBlanks
    let before ← get
    skipComment
    if ← newline? then skipLines fuel else set before

/-! ## Strings -/

/-- The character of a number of hexadecimal digits. -/
def codePoint (count : Nat) : Scan Char := do
  match Text.valueIn? 16 (← Scan.take count) with
  | some n => if h : n.isValidChar then pure (Char.ofNatAux n h) else failure
  | none => failure

/-- What stands after a backslash. -/
def escape : Scan Char := do
  match ← Scan.next with
  | 'b' => pure '\x08'
  | 't' => pure '\t'
  | 'n' => pure '\n'
  | 'f' => pure '\x0c'
  | 'r' => pure '\r'
  | '"' => pure '"'
  | '\\' => pure '\\'
  | 'u' => codePoint 4
  | 'U' => codePoint 8
  | _ => failure

/-- The rest of a string after its quote; the characters read so far are reversed. -/
def basicTail : Nat → List Char → Scan String
  | 0, _ => failure
  | fuel + 1, done => do
    match ← Scan.next with
    | '"' => pure (String.ofList done.reverse)
    | '\\' => basicTail fuel ((← escape) :: done)
    | c => if isPrintable c then basicTail fuel (c :: done) else failure

/-- A string in quotes on one line. -/
def basicString : Scan String := do
  Scan.expect "\""
  Scan.fueled fun fuel => basicTail fuel []

/-- A string in apostrophes on one line, in which nothing is escaped. -/
def literalString : Scan String := do
  Scan.expect "\x27"
  let cs ← Scan.takeWhile fun c => isPrintable c && c != apostrophe
  Scan.expect "\x27"
  pure (String.ofList cs)

def skipBlankLines : List Char → List Char
  | '\r' :: '\n' :: rest => skipBlankLines rest
  | c :: rest => if isBlank c || c == '\n' then skipBlankLines rest else c :: rest
  | [] => []

/-- Skips the end of a line that a backslash joins to the next words, if it is one. -/
def joinedLine? : Scan Bool := do
  let before ← get
  skipBlanks
  if ← newline? then
    modify skipBlankLines
    pure true
  else
    set before
    pure false

/-- The rest of a string of several lines, up to three of its quotes. Up to two more quotes
belong to the string. -/
def multilineTail (quote : Char) (escapes : Bool) : Nat → List Char → Scan String
  | 0, _ => failure
  | fuel + 1, done => do
    let quotes := (← get).takeWhile (· == quote)
    if 3 ≤ quotes.length then
      let quotes := quotes.take 5
      modify (·.drop quotes.length)
      pure (String.ofList (done.reverse ++ quotes.drop 3))
    else if ← newline? then multilineTail quote escapes fuel ('\n' :: done)
    else
      let c ← Scan.next
      if escapes && c == '\\' then
        if ← joinedLine? then multilineTail quote escapes fuel done
        else multilineTail quote escapes fuel ((← escape) :: done)
      else if isPrintable c then multilineTail quote escapes fuel (c :: done)
      else failure

/-- A string of several lines, without the line end that its quotes may begin with. -/
def multiline (quote : Char) (escapes : Bool) : Scan String := do
  discard newline?
  Scan.fueled fun fuel => multilineTail quote escapes fuel []

def string : Scan String := do
  if ← Scan.skip? "\"\"\"" then multiline '"' true
  else if ← Scan.skip? "\x27\x27\x27" then multiline apostrophe false
  else if (← Scan.peek?) == some '"' then basicString
  else literalString

/-! ## Keys -/

def isBare (c : Char) : Bool :=
  c.isAlphanum || c == '_' || c == '-'

def simpleKey : Scan String := do
  match ← Scan.peek? with
  | some '"' => basicString
  | some '\x27' => literalString
  | _ => pure (String.ofList (← Scan.takeSome isBare))

/-- Keys with dots between them. -/
def keys : Nat → Scan (List String)
  | 0 => failure
  | fuel + 1 => do
    skipBlanks
    let key ← simpleKey
    skipBlanks
    if ← Scan.skip? "." then pure (key :: (← keys fuel)) else pure [key]

/-- A key that leads through tables: the tables, and the key in the last of them. Fewer
than eighty keys may follow one another. -/
def key : Scan (List String × String) := do
  let all ← Scan.fueled keys
  match all.getLast? with
  | some last => if all.length < 80 then pure (all.dropLast, last) else failure
  | none => failure

end Renderflow.Toml
