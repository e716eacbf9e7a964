import Renderflow.Engine.Status
import Renderflow.Engine.Uuid
import Renderflow.Graph.Codec
import Renderflow.Json.Printer
import Renderflow.Json.Reader

/-!
# Submitting a graph

What is sent to an engine to queue a graph, and how its answer is understood. An engine
may report faults of nodes with a status of success as well as with one of failure.
-/

namespace Renderflow

structure Submission where
  graph : Graph
  clientId : Option Uuid := none

def Submission.body (s : Submission) : Json :=
  .ofFields [("prompt", some s.graph.toJson), ("client_id", s.clientId.map Uuid.toJson)]

/-- An answer as it comes in. -/
structure Reply where
  status : Status
  text : String

/-- The engine's word that a graph is queued. -/
structure Receipt where
  promptId : Uuid
  number : UInt64
  nodeErrors : Table Json

namespace Receipt

def ofJson? (j : Json) : Option Receipt := do
  let f ← j.fieldsOf? ["prompt_id", "number", "node_errors"] 2
  pure
    { promptId := ← f.required "prompt_id" Uuid.ofJson?
      number := ← f.required "number" Json.asUInt64?
      nodeErrors := ← f.default "node_errors" Table.empty (Json.asTable? some) }

def toJson (r : Receipt) : Json :=
  .obj [("prompt_id", r.promptId.toJson), ("number", .int r.number.toNat),
    ("node_errors", .obj r.nodeErrors.entries)]

end Receipt

/-- The engine's word that it refuses a graph. -/
structure Refusal where
  error : Json
  nodeErrors : Table Json

namespace Refusal

def ofJson? (j : Json) : Option Refusal := do
  let f ← j.fieldsOf? ["error", "node_errors"] 0
  pure
    { error := ← f.default "error" .null some
      nodeErrors := ← f.default "node_errors" Table.empty (Json.asTable? some) }

/-- A refusal that names no fault is none. -/
def isEmpty (r : Refusal) : Bool :=
  r.nodeErrors.isEmpty && match r.error with
    | .null => true
    | _ => false

end Refusal

inductive SubmissionError where
  | invalidResponse
  | refused (refusal : Refusal)
  | badStatus (reply : Reply)

namespace SubmissionError

def message : SubmissionError → String
  | invalidResponse => "Parsing response failed"
  | refused r => "Prompt rejected: " ++ r.error.canonical.compact
  | badStatus r => "Got error code: " ++ r.status.text ++ ", message text: " ++ r.text

end SubmissionError

namespace Reply

/-- What an answer says about the submitted graph. -/
def receipt (r : Reply) : Except SubmissionError Receipt :=
  if r.status.isSuccess then
    match (Json.read? r.text).bind Receipt.ofJson? with
    | none => .error .invalidResponse
    | some receipt =>
      if receipt.nodeErrors.isEmpty then .ok receipt
      else .error (.refused ⟨.null, receipt.nodeErrors⟩)
  else
    match (Json.read? r.text).bind Refusal.ofJson? with
    | none => .error (.badStatus r)
    | some refusal => .error (if refusal.isEmpty then .badStatus r else .refused refusal)

end Reply

end Renderflow
