/-!
# Splitting text

Cutting a text at the first or last of its separators, cutting it at all of them, and
finding one text within another.
-/

namespace Renderflow.Text

/-- The parts before and after the first `c`. -/
def cutFirst? (c : Char) (s : String) : Option (String × String) :=
  let before := s.toList.takeWhile (· != c)
  match s.toList.dropWhile (· != c) with
  | [] => none
  | _ :: after => some (String.ofList before, String.ofList after)

/-- The parts before and after the last `c`. -/
def cutLast? (c : Char) (s : String) : Option (String × String) :=
  let after := s.toList.reverse.takeWhile (· != c)
  match s.toList.reverse.dropWhile (· != c) with
  | [] => none
  | _ :: before => some (String.ofList before.reverse, String.ofList after.reverse)

/-- The runs between separators, empty ones included. -/
def splitBy (sep : Char → Bool) : List Char → List (List Char)
  | [] => [[]]
  | c :: cs =>
    if sep c then [] :: splitBy sep cs
    else match splitBy sep cs with
      | [] => [[c]]
      | run :: runs => (c :: run) :: runs

def startsWith (s start : String) : Bool :=
  start.toList.isPrefixOf s.toList

def endsWith (s tail : String) : Bool :=
  tail.toList.isSuffixOf s.toList

def occursIn (part : List Char) : List Char → Bool
  | [] => part.isEmpty
  | c :: cs => part.isPrefixOf (c :: cs) || occursIn part cs

/-- Whether one text stands somewhere within another. -/
def contains (s part : String) : Bool :=
  occursIn part.toList s.toList

end Renderflow.Text
