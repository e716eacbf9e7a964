/-!
# Scanning text

A scanner reads something from the start of a text and leaves the rest, or fails.
-/

namespace Renderflow

abbrev Scan := StateT (List Char) Option

namespace Scan

variable {α : Type}

/-- The next character, which is left in place. -/
def peek? : Scan (Option Char) :=
  fun cs => some (cs.head?, cs)

def next : Scan Char
  | [] => none
  | c :: rest => some (c, rest)

/-- Skips a given text, and tells whether it was there. -/
def skip? (word : String) : Scan Bool :=
  fun cs =>
    let w := word.toList
    if w.isPrefixOf cs then some (true, cs.drop w.length) else some (false, cs)

/-- Skips a given text, which has to be there. -/
def expect (word : String) : Scan Unit := do
  if ← skip? word then pure () else failure

def takeWhile (p : Char → Bool) : Scan (List Char) :=
  fun cs => some (cs.takeWhile p, cs.dropWhile p)

def dropWhile (p : Char → Bool) : Scan Unit :=
  fun cs => some ((), cs.dropWhile p)

/-- As `takeWhile`, but at least one character. -/
def takeSome (p : Char → Bool) : Scan (List Char) := do
  let cs ← takeWhile p
  if cs.isEmpty then failure else pure cs

/-- Exactly so many characters. -/
def take (count : Nat) : Scan (List Char) :=
  fun cs => if count ≤ cs.length then some (cs.take count, cs.drop count) else none

/-- Runs a scanner that recurs at most once for each character. -/
def fueled (scan : Nat → Scan α) : Scan α :=
  fun cs => scan (cs.length + 1) cs

/-- What a scanner reads if it reads the whole text. -/
def all? (scan : Scan α) (cs : List Char) : Option α :=
  match scan cs with
  | some (a, []) => some a
  | _ => none

end Scan

end Renderflow
