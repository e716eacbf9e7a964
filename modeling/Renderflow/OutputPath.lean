import Renderflow.Text.Basic

/-!
# Output paths

Paths are written with forward slashes. A file is named after the kind of its job, the id
of the job and, where there is one, a suffix.
-/

namespace Renderflow.OutputPath

def isSeparator (c : Char) : Bool :=
  c == '/' || c == '\\'

def forward (c : Char) : Char :=
  if c = '\\' then '/' else c

/-- Leaves one slash of every run of slashes. -/
def collapse : List Char → List Char
  | [] => []
  | '/' :: '/' :: rest => collapse ('/' :: rest)
  | c :: rest => c :: collapse rest

/-- Keeps the two slashes that a path begins with and collapses the runs after them. -/
def normalizeChars (cs : List Char) : List Char :=
  match cs with
  | '/' :: '/' :: rest => '/' :: '/' :: collapse rest
  | cs => collapse cs

/-- The path with forward slashes, its runs of slashes collapsed. -/
def normalize (path : String) : String :=
  String.ofList (normalizeChars (path.toList.map forward))

/-- A directory without white space around it and without separators at its end. -/
def directory (dir : String) : String :=
  String.ofList (((Text.trim dir).toList.reverse.dropWhile isSeparator).reverse)

/-- The name of the files of a job, without number and extension. -/
def fileName (kind jobId : String) (suffix : Option String) : String :=
  let name := kind ++ "_" ++ jobId
  match suffix with
  | none => name
  | some s => if s.isEmpty then name else name ++ "_" ++ s

/-- The path of the files of a job, without number and extension. -/
def stem (dir kind jobId : String) (suffix : Option String) : String :=
  let dir := directory dir
  let name := fileName kind jobId suffix
  normalize (if dir.isEmpty then name else dir ++ "/" ++ name)

end Renderflow.OutputPath
