import Renderflow.Text.Split

/-!
# A tree of files

The files and directories of a system, below one root, and how a path leads through them: one that
begins with a slash leads from the root, any other from the working directory. Names are
case-sensitive, only a slash separates them, and a file cannot be passed through: `a.png/` does not
name a file.
-/

namespace Renderflow

inductive Entry where
  | file
  | directory
  deriving DecidableEq, Repr

/-- Files with their contents, and directories, each by the names that lead to it from the root.
The directories on the way to an entry, and to the working directory, exist too. -/
structure FileTree where
  workingDirectory : List String
  files : List (List String × String)
  directories : List (List String)
  /-- Whether a file may be created or overwritten at a place. -/
  writable : List String → Bool := fun _ => true

namespace FileTree

/-- The names of a path. Empty names and single dots lead nowhere. -/
def names (path : String) : List String :=
  ((Text.splitBy (· == '/') path.toList).map String.ofList).filter fun n => n != "" && n != "."

/-- A tree of files and directories whose paths lead from the working directory. -/
def ofPaths (workingDirectory : List String) (files : List (String × String))
    (directories : List String) : FileTree :=
  { workingDirectory
    files := files.map fun f => (workingDirectory ++ names f.1, f.2)
    directories := directories.map fun d => workingDirectory ++ names d }

def content? (t : FileTree) (place : List String) : Option String :=
  t.files.lookup place

/-- Whether a place lies on the way to an entry, or is a directory itself. -/
def isDirectory (t : FileTree) (place : List String) : Bool :=
  place.isPrefixOf t.workingDirectory || t.directories.any place.isPrefixOf ||
    t.files.any fun f => place.isPrefixOf f.1 && place != f.1

/-- Where a walk along a path stands, by the names that lead there. Those of a directory are
reversed. -/
inductive Place where
  | file (names : List String)
  | directory (reversed : List String)
  deriving DecidableEq, Repr

/-- One step of a walk. Two dots lead up, but the root is above itself. Names have at most 255
bytes. -/
def step (t : FileTree) (at_ : Place) (name : String) : Option Place :=
  match at_ with
  | .file _ => none
  | .directory reversed =>
    if name == "" || name == "." then some (.directory reversed)
    else if name == ".." then some (.directory reversed.tail)
    else if 255 < name.utf8ByteSize then none
    else
      let place := (name :: reversed).reverse
      if (t.content? place).isSome then some (.file place)
      else if t.isDirectory place then some (.directory (name :: reversed))
      else none

/-- Where a walk along a path begins. -/
def start (t : FileTree) (path : String) : Place :=
  .directory (if Text.startsWith path "/" then [] else t.workingDirectory.reverse)

/-- The empty path, paths of 4096 bytes and more, and those with a null character lead nowhere. -/
def isPath (path : String) : Bool :=
  !path.isEmpty && path.utf8ByteSize < 4096 && !path.toList.contains '\x00'

/-- The directory that a path begins to walk in, the names on the way, and the last name. -/
def cut (path : String) : List String × String :=
  let names := (Text.splitBy (· == '/') path.toList).map String.ofList
  (names.dropLast, names.getLast?.getD "")

/-- Where the directory of a path lies, in which its last name is looked up. -/
def parent? (t : FileTree) (path : String) : Option Place :=
  if isPath path then (cut path).1.foldlM t.step (t.start path) else none

/-- Where a path leads. -/
def place? (t : FileTree) (path : String) : Option Place := do
  t.step (← t.parent? path) (cut path).2

def entry? (t : FileTree) (path : String) : Option Entry :=
  (t.place? path).map fun
    | .file _ => .file
    | .directory _ => .directory

/-- The content of the file that a path names. -/
def read? (t : FileTree) (path : String) : Option String :=
  match t.place? path with
  | some (.file place) => t.content? place
  | _ => none

/-- Where a file is created, under a name that is looked up in vain. -/
def newFile? (t : FileTree) (path : String) : Option (List String) :=
  match t.parent? path with
  | some (.directory reversed) =>
    let name := (cut path).2
    if 255 < name.utf8ByteSize then none else some (name :: reversed).reverse
  | _ => none

/-- The names of a file that a path may create or overwrite: its directory has to exist, the path
must not name a directory, and the system has to let the file be written. -/
def target? (t : FileTree) (path : String) : Option (List String) :=
  let place := match t.place? path with
    | some (.file place) => some place
    | some (.directory _) => none
    | none => t.newFile? path
  place.filter t.writable

/-- The tree with a file at a place, over one that is there. -/
def put (t : FileTree) (place : List String) (content : String) : FileTree :=
  { t with files := (place, content) :: t.files.filter fun f => f.1 != place }

/-- The tree after a file is written, unless the path does not allow it. -/
def write? (t : FileTree) (path content : String) : Option FileTree :=
  (t.target? path).map fun place => t.put place content

end FileTree

/-- The extension of the last name of a path: the text after its last dot, unless the dot
begins the name. -/
def fileExtension? (path : String) : Option String :=
  match (FileTree.names path).getLast? with
  | none => none
  | some name =>
    if name == ".." then none
    else match Text.cutLast? '.' name with
      | none => none
      | some (before, ext) => if before.isEmpty then none else some ext

end Renderflow
