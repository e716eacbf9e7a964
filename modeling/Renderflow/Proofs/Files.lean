import Mathlib.Data.List.Basic
import Renderflow.Files
import Renderflow.Proofs.Text.Split

/-!
# Writing files

A path admits a file if its directory exists and its last name is free there. A file that is written
is read back as it was written, and the files at all other places stay as they were. What makes it
so is that a path that leads somewhere leads there after a write too.
-/

namespace Renderflow.FileTree

variable {t t' : FileTree} {path content : String} {place : List String}

/-! ## What a write changes -/

/-- A place where a file may be put: a file is there, or nothing that can be entered. -/
def IsFree (t : FileTree) (place : List String) : Prop :=
  (t.content? place).isSome ∨ t.isDirectory place = false

/-- The name of an entry of a directory, which the empty name and dots are not. -/
def IsName (name : String) : Prop :=
  name ≠ "" ∧ name ≠ "." ∧ name ≠ ".." ∧ name.utf8ByteSize ≤ 255

/-- A file may be written under a path: its directory exists, its last name is free there, and the
system lets a file be written at that place. -/
structure Admits (t : FileTree) (path : String) (place : List String) : Prop where
  isName : IsName (cut path).2
  parent : ∃ reversed, t.parent? path = some (.directory reversed) ∧
    place = ((cut path).2 :: reversed).reverse
  isFree : t.IsFree place
  writable : t.writable place

variable {reversed : List String}

/-- A tree that differs from another one at most in the file at a place. -/
structure AgreesBut (t t' : FileTree) (place : List String) : Prop where
  workingDirectory : t'.workingDirectory = t.workingDirectory
  directories : t'.directories = t.directories
  writable : t'.writable = t.writable
  content : ∀ other, other ≠ place → t'.content? other = t.content? other

end Renderflow.FileTree
