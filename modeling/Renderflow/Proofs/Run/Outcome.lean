import Renderflow.Proofs.Error
import Renderflow.Proofs.Job.Record
import Renderflow.Run.Script

/-!
# How a run comes to an outcome

A run loads its configuration, its styles and the record in its source file, in this order, and
compiles its job. It stops at the first of them that it cannot load. What it prints of a job tells
how the job ended, and is no graph.
-/

namespace Renderflow

/-! ## Loading -/

namespace CommandLine.Invocation

variable {i : Invocation} {o : Outside} {config : Config} {result : Except CompileError Compiled}
  {request : JobRequest} {failure : Failure}

/-- What a run cannot load: its configuration, its styles, or the record in its source file, which
cannot be read or is none. -/
inductive Misses (i : Invocation) (o : Outside) : Failure → Prop
  | config {e : ConfigError} (h : Config.load o.read? o.environment i.config = .error e) :
    Misses i o (.config e)
  | styles {config : Config} {e : ConfigError}
    (hconfig : Config.load o.read? o.environment i.config = .ok config)
    (h : config.styles o.read? = .error e) : Misses i o (.config e)
  | unreadable {config : Config} {styles : StyleBook} {file : String}
    (hconfig : Config.load o.read? o.environment i.config = .ok config)
    (hstyles : config.styles o.read? = .ok styles) (hsource : i.source = some file)
    (h : o.read? file = none) : Misses i o (.unreadableSource file)
  | invalid {config : Config} {styles : StyleBook} {file text : String}
    (hconfig : Config.load o.read? o.environment i.config = .ok config)
    (hstyles : config.styles o.read? = .ok styles) (hsource : i.source = some file)
    (hread : o.read? file = some text)
    (h : ∀ j, Json.read? text = some j → JobDetails.ofJson? j = none) :
    Misses i o (.invalidSource file)

end CommandLine.Invocation

/-! ## Documents about jobs -/

/-- The document that tells of a compiled job. -/
def Compiled.notice (x : Compiled) : Json :=
  .obj [("status", .str "succeeded"), ("job_id", .str x.details.jobId), ("message", .str x.message),
    ("details", x.details.toJson)]

/-- The document that tells of a job which is not compiled. -/
def CompileError.notice (e : CompileError) : Json :=
  .obj [("status", .str "rejected"), ("job_id", .null), ("message", .str e.message),
    ("details", .null)]

end Renderflow
