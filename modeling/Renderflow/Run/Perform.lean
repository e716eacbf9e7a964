import Renderflow.Files
import Renderflow.Run.Script

/-!
# Performing a script

The steps of a script are taken one after the other; the first that fails ends the run. Here
the files are a tree and the engine is a function, which has no reply when it cannot be
reached.
-/

namespace Renderflow

/-- What a run has done. -/
structure Report where
  printed : List Json := []
  files : FileTree
  sent : List (Url × Submission) := []
  failure : Option Failure := none

namespace Report

def exitCode (r : Report) : UInt8 :=
  (r.failure.map Failure.exitCode).getD 0

end Report

/-- What is printed when a graph is queued. -/
def Receipt.notice (r : Receipt) : Json :=
  .obj [("prompt_id", r.promptId.toJson), ("number", .int r.number.toNat)]

abbrev Engine := Url → Submission → Option Reply

namespace Step

/-- Takes one step. -/
def perform (engine : Engine) (r : Report) : Step → Report
  | print document => { r with printed := r.printed ++ [document] }
  | write file document =>
    match r.files.write? file document.pretty with
    | some files => { r with files }
    | none => { r with failure := some (.unwritable file) }
  | submit endpoint submission =>
    let r := { r with sent := r.sent ++ [(endpoint, submission)] }
    match (engine endpoint submission).map Reply.receipt with
    | some (.ok receipt) => { r with printed := r.printed ++ [receipt.notice] }
    | _ => { r with failure := some .notQueued }

end Step

namespace Script

/-- Takes the steps up to the first that fails. -/
def performSteps (engine : Engine) : List Step → Report → Report
  | [], r => r
  | step :: rest, r =>
    let r := step.perform engine r
    if r.failure.isSome then r else performSteps engine rest r

def perform (s : Script) (engine : Engine) (files : FileTree) : Report :=
  let r := performSteps engine s.steps { files }
  { r with failure := r.failure.or s.failure }

end Script

end Renderflow
