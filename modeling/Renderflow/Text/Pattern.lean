/-!
# Patterns

What a text is matched against. Where it can be matched in several ways, a longer run is tried
before a shorter one and the first of two alternatives before the second, and the first way that
leads to the end of the text counts.
-/

namespace Renderflow

/-- Matches texts, and keeps the parts of them that are in numbered groups. -/
inductive Pattern where
  /-- A character of a kind. -/
  | one (kind : Char → Bool)
  /-- At least one character of a kind, as many as can be. -/
  | many (kind : Char → Bool)
  | seq (first second : Pattern)
  | either (first second : Pattern)
  | group (number : Nat) (inner : Pattern)

namespace Pattern

/-- The parts of a text that are kept, the last one first. -/
abbrev Groups := List (Nat × List Char)

variable {α : Type}

/-- Goes on after a run of characters of a kind, after the longest one that leads to a result. -/
def longest? (kind : Char → Bool) (next : List Char → Option α) : List Char → Option α
  | [] => none
  | c :: rest => if kind c then longest? kind next rest <|> next rest else none

/-- Goes on with what a pattern leaves of a text, in the first way that leads to a result. -/
def first? (groups : Groups) (next : Groups → List Char → Option α) :
    Pattern → List Char → Option α
  | one kind, cs =>
    match cs with
    | [] => none
    | c :: rest => if kind c then next groups rest else none
  | many kind, cs => longest? kind (next groups) cs
  | seq a b, cs => first? groups (fun groups => first? groups next b) a cs
  | either a b, cs => first? groups next a cs <|> first? groups next b cs
  | group number a, cs =>
    first? groups
      (fun groups rest => next ((number, cs.take (cs.length - rest.length)) :: groups) rest) a cs

/-- What is kept when the end of the text is reached. -/
def kept? (groups : Groups) (rest : List Char) : Option Groups :=
  if rest.isEmpty then some groups else none

/-- The parts of a text that a pattern keeps if it matches the text as a whole. -/
def captures? (p : Pattern) (s : String) : Option Groups :=
  p.first? [] kept? s.toList

end Pattern

end Renderflow
