import Renderflow.Engine.Url

/-!
# The address of an engine

Graphs are queued at the name `prompt` below the address of an engine. The address may lack
its last slash, and white space around it is dropped.
-/

namespace Renderflow

inductive EndpointError where
  | invalidAddress (address : String)
  /-- The address is a URL without a hierarchy of names. -/
  | noHierarchy
  | invalidEndpoint
  deriving DecidableEq, Repr

namespace EndpointError

def message : EndpointError → String
  | invalidAddress address => "Failed to parse ComfyUI URL '" ++ address ++ "'"
  | noHierarchy => "Failed to build prompt endpoint"
  | invalidEndpoint => "Failed to parse endpoint URL"

end EndpointError

namespace Endpoint

/-- The engine on this machine. -/
def localAddress : String := "http://localhost:8188"

/-- The URL of an address, which ends with a slash so that names are below it. -/
def base (address : String) : Except EndpointError Url :=
  let address := Text.trim address
  let whole := if Text.endsWith address "/" then address else address ++ "/"
  match Url.parse? whole with
  | some url => .ok url
  | none => .error (.invalidAddress address)

/-- Where the engine at an address takes graphs. -/
def ofAddress (address : String) : Except EndpointError Url := do
  let url ← base address
  match url.join? "prompt" with
  | some url => .ok url
  | none => .error .noHierarchy

/-- Takes the URL at which graphs are queued as it is. -/
def direct (text : String) : Except EndpointError Url :=
  match Url.parse? text with
  | some url => .ok url
  | none => .error .invalidEndpoint

end Endpoint

end Renderflow
