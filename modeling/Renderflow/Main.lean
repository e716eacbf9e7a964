import Renderflow.Run.Perform

/-!
# The program

Gathers what a run learns of the world, and takes the steps of its script. This program has
no network: an image on a server cannot be looked at, and an engine cannot be reached.
-/

namespace Renderflow.Program

def usage : String :=
  "Usage: tenos-workflow [OPTIONS] <COMMAND>\n\n" ++
  "Commands: " ++ ", ".intercalate CommandLine.commandNames

def version : String := "tenos-workflow 0.3.0"

def whether (action : IO Unit) : IO Bool := do
  try
    action
    pure true
  catch _ => pure false

def readText? (path : String) : IO (Option String) := do
  try
    pure (some (← IO.FS.readFile path))
  catch _ => pure none

def opens (path : String) : IO Bool :=
  whether (discard (IO.FS.Handle.mk path .read))

/-- What a path names; only a directory holds itself. -/
def entryOf? (path : String) : IO (Option Entry) := do
  if ← opens (path ++ "/.") then pure (some .directory)
  else if ← opens path then pure (some .file)
  else pure none

/-- The answers of an action for some texts. -/
def answers {α : Type} (action : String → IO (Option α)) (texts : List String) :
    IO (List (String × α)) := do
  let found ← texts.mapM fun t => do pure ((← action t).map fun a => (t, a))
  pure (found.filterMap id)

/-- The environment variables, as the system lists them. -/
def environment : IO (List (String × String)) := do
  let text := (← readText? "/proc/self/environ").getD ""
  pure ((Text.splitBy (· == '\x00') text.toList).filterMap fun entry =>
    Text.cutFirst? '=' (String.ofList entry))

def among {α : Type} (l : List (String × α)) (text : String) : Option α :=
  l.lookup text

/-- What the run of an invocation learns of the world. -/
def outside (i : CommandLine.Invocation) : IO Outside := do
  let environment ← environment
  let files ← answers readText?
    ([Config.systemFile, i.config.getD Config.localFile] ++ i.source.toList)
  let styles := match Config.load (among files) environment i.config with
    | .ok config => config.stylesFile.toList
    | .error _ => []
  let files := files ++ (← answers readText? styles)
  let entries ← answers entryOf? i.request.locations
  let clientId := Uuid.ofRandom (.ofNat 128 (← IO.rand 0 (Nat.pow 2 128 - 1)))
  pure
    { read? := among files
      environment
      world :=
        { contentType := fun _ => .error ["HEAD request failed", "no network"]
          entry := among entries }
      jobId := freshJobId (.ofNat 32 (← IO.rand 0 (UInt32.size - 1)))
      freshSeed := Renderflow.freshSeed (← IO.rand 0 (seedBound - 1))
      clientId := some clientId }

/-- Takes one step. -/
def take : Step → IO (Option Failure)
  | .print document => do
    IO.println document.pretty
    pure none
  | .write file document => do
    if ← whether (IO.FS.writeFile file document.pretty) then pure none
    else pure (some (.unwritable file))
  | .submit _ _ => pure (some .notQueued)

/-- Takes the steps up to the first that fails. -/
def takeAll : List Step → IO (Option Failure)
  | [] => pure none
  | step :: rest => do
    match ← take step with
    | some failure => pure (some failure)
    | none => takeAll rest

def report : Failure → IO Unit
  | .stop .help => IO.println usage
  | .stop .version => IO.println version
  | .stop _ => IO.eprintln usage
  | failure => IO.eprintln ("Error: " ++ failure.message?.getD "")

def run (args : List String) : IO UInt32 := do
  let failure ← match CommandLine.Invocation.read args with
    | .error reason => pure (some (.stop reason))
    | .ok i => do
      let script := i.script (← outside i)
      pure ((← takeAll script.steps).or script.failure)
  match failure with
  | none => pure 0
  | some failure => do
    report failure
    pure failure.exitCode.toUInt32

end Renderflow.Program

def main (args : List String) : IO UInt32 :=
  Renderflow.Program.run args
