import Renderflow.Toml.Scalar
import Renderflow.Toml.Tables

/-!
# Reading TOML

A document is read as a JSON object. Arrays and inline tables nest less than eighty deep.
-/

namespace Renderflow.Toml

mutual

/-- A value at the start of the text; the depth counts the arrays and inline tables that may
still be opened. -/
def value : Nat → Nat → Scan Json
  | 0, _ => failure
  | fuel + 1, depth => do
    match ← Scan.peek?, depth with
    | some '[', depth + 1 =>
      Scan.expect "["
      pure (.arr (← items fuel depth))
    | some '{', depth + 1 =>
      Scan.expect "\x7b"
      skipBlanks
      let assignments ← if ← Scan.skip? "\x7d" then pure [] else assignments fuel depth
      match inlineTable? assignments with
      | some table => pure table
      | none => failure
    | _, _ => scalar

/-- The items of an array up to its closing bracket. -/
def items : Nat → Nat → Scan (List Json)
  | 0, _ => failure
  | fuel + 1, depth => do
    Scan.fueled skipLines
    if ← Scan.skip? "]" then pure []
    else
      let item ← value fuel depth
      Scan.fueled skipLines
      if ← Scan.skip? "," then pure (item :: (← items fuel depth))
      else
        Scan.expect "]"
        pure [item]

/-- The assignments of an inline table up to its closing brace. -/
def assignments : Nat → Nat → Scan (List Assignment)
  | 0, _ => failure
  | fuel + 1, depth => do
    let (path, name) ← key
    Scan.expect "="
    skipBlanks
    let item ← value fuel depth
    skipBlanks
    if ← Scan.skip? "," then pure (⟨path, name, item⟩ :: (← assignments fuel depth))
    else
      Scan.expect "\x7d"
      pure [⟨path, name, item⟩]

end

def assignment : Scan Assignment := do
  let (path, name) ← key
  Scan.expect "="
  skipBlanks
  pure ⟨path, name, ← Scan.fueled fun fuel => value (2 * fuel) 79⟩

def header : Scan Header := do
  Scan.expect "["
  let inList ← Scan.skip? "["
  let (path, name) ← key
  Scan.expect (if inList then "]]" else "]")
  pure ⟨inList, path, name⟩

/-- The assignments before the first header, and the sections after it. -/
def lines : Nat → Scan (List Assignment × List Section)
  | 0 => failure
  | fuel + 1 => do
    skipBlanks
    match ← Scan.peek? with
    | none => pure ([], [])
    | some '#' | some '\n' | some '\r' =>
      endOfLine
      lines fuel
    | some '[' =>
      let h ← header
      endOfLine
      let (own, sections) ← lines fuel
      pure ([], ⟨h, own⟩ :: sections)
    | some _ =>
      let a ← assignment
      endOfLine
      let (own, sections) ← lines fuel
      pure (a :: own, sections)

/-- The object that a document writes. A byte order mark may precede it. -/
def read? (text : String) : Option Json := do
  let cs := match text.toList with
    | '\uFEFF' :: rest => rest
    | cs => cs
  let (own, sections) ← Scan.all? (Scan.fueled lines) cs
  let root ← assign own []
  let entries ← sections.foldlM (fun entries s => s.apply entries) root
  some (.obj (entriesToJson entries))

end Renderflow.Toml
