import Renderflow.CommandLine.Invocation
import Renderflow.Config
import Renderflow.Engine.Submission
import Renderflow.Graph.Reach

/-!
# Scripts

What the program does for a command line is settled before it does any of it: the script
lists the steps, and the failure that ends the run after them, if there is one. Only a job
that is compiled has steps that give its graph away.
-/

namespace Renderflow

/-- What a run learns of the world. -/
structure Outside where
  read? : String → Option String
  environment : List (String × String)
  world : World
  /-- The id of the job. -/
  jobId : String
  /-- The seed of a job whose request has none. -/
  freshSeed : Int64
  clientId : Option Uuid := none

inductive Failure where
  | stop (reason : CommandLine.Stop)
  | config (error : ConfigError)
  | unreadableSource (file : String)
  | invalidSource (file : String)
  | notCompiled (status : CompileStatus) (message : String)
  | unwritable (file : String)
  | endpoint (error : EndpointError)
  | notQueued
  deriving DecidableEq, Repr

namespace Failure

/-- The message of a failure; a command line that is not understood has a usage instead. -/
def message? : Failure → Option String
  | stop _ => none
  | config e => some e.message
  | unreadableSource file => some ("Failed to read job details from " ++ file)
  | invalidSource file => some ("Invalid job details in " ++ file)
  | notCompiled status message => some ("Job " ++ status.key ++ ": " ++ message)
  | unwritable file => some ("Failed to write graph to " ++ file)
  | endpoint e => some e.message
  | notQueued => some "Failed to queue workflow"

def exitCode : Failure → UInt8
  | stop reason => if reason.isError then 2 else 0
  | _ => 1

end Failure

inductive Step where
  | print (document : Json)
  | write (file : String) (document : Json)
  | submit (endpoint : Url) (submission : Submission)

structure Script where
  steps : List Step := []
  /-- What ends the run after the steps. -/
  failure : Option Failure := none

/-- The record of a job that is printed in any case. -/
def CompileOutcome.summary (o : CompileOutcome) : Json :=
  .obj [("status", .str o.status.key), ("job_id", .ofOption .str o.jobId),
    ("message", .str o.message), ("details", .ofOption JobDetails.toJson o.details)]

namespace CommandLine.Invocation

/-- The details in the source file. -/
def sourceDetails (read? : String → Option String) (file : String) :
    Except Failure JobDetails :=
  match read? file with
  | none => .error (.unreadableSource file)
  | some text =>
    match (Json.read? text).bind JobDetails.ofJson? with
    | none => .error (.invalidSource file)
    | some details => .ok details

/-- The request, with the details of its source job. -/
def fullRequest (i : Invocation) (read? : String → Option String) : Except Failure JobRequest :=
  match i.source with
  | none => .ok i.request
  | some file => (sourceDetails read? file).map i.request.ofSource

/-- The configuration of a run, and how its job ends. -/
def outcome (i : Invocation) (o : Outside) : Except Failure (Config × CompileOutcome) := do
  let config ← (Config.load o.read? o.environment i.config).mapError .config
  let styles ← (config.styles o.read?).mapError .config
  let request ← i.fullRequest o.read?
  let context : JobContext :=
    { settings := config.settings, styles, world := o.world
      jobId := o.jobId, freshSeed := o.freshSeed }
  .ok (config, .of (request.compile context))

/-- Where the graph goes. -/
def delivery (i : Invocation) (graph : Graph) : Step :=
  match i.output with
  | some file => .write file graph.toJson
  | none => .print graph.toJson

/-- Queues the graph, which has to have all its connections. -/
def queueing (o : Outside) (config : Config) (graph : Graph) : Except Failure Step :=
  match Endpoint.ofAddress config.engineAddress with
  | .error e => .error (.endpoint e)
  | .ok endpoint =>
    if graph.refusal?.isSome then .error .notQueued
    else .ok (.submit endpoint { graph, clientId := o.clientId })

def script (i : Invocation) (o : Outside) : Script :=
  match i.outcome o with
  | .error failure => { failure }
  | .ok (config, outcome) =>
    match outcome.graph with
    | none =>
      { steps := [.print outcome.summary]
        failure := some (.notCompiled outcome.status outcome.message) }
    | some graph =>
      let given := [.print outcome.summary, i.delivery graph]
      if i.submit then
        match queueing o config graph with
        | .error failure => { steps := given, failure }
        | .ok step => { steps := given ++ [step] }
      else { steps := given }

end CommandLine.Invocation

/-- The script of a command line. -/
def Script.of (o : Outside) (args : List String) : Script :=
  match CommandLine.Invocation.read args with
  | .error reason => { failure := some (.stop reason) }
  | .ok i => i.script o

end Renderflow
