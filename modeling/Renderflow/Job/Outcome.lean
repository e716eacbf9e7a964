import Renderflow.Job.Animation
import Renderflow.Job.Edit
import Renderflow.Job.Generation
import Renderflow.Job.Upscale
import Renderflow.Job.Variation

/-!
# Outcomes

Every job ends in one of three ways: it is compiled, it is rejected with an explanation, or
a defect of the templates is met.
-/

namespace Renderflow

inductive CompileStatus where
  | succeeded
  | rejected
  | crashed
  deriving DecidableEq, Repr

namespace CompileStatus

def key : CompileStatus → String
  | succeeded => "succeeded"
  | rejected => "rejected"
  | crashed => "crashed"

end CompileStatus

structure CompileOutcome where
  jobId : Option String
  graph : Option Graph
  message : String
  details : Option JobDetails
  status : CompileStatus

namespace CompileOutcome

def of : Except CompileError Compiled → CompileOutcome
  | .ok c =>
    { jobId := some c.details.jobId
      graph := some c.graph
      message := c.message
      details := some c.details
      status := .succeeded }
  | .error e =>
    { jobId := none
      graph := none
      message := e.userMessage
      details := none
      status := if e.isInternal then .crashed else .rejected }

end CompileOutcome

end Renderflow
