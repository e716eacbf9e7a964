import Renderflow.Job.Outcome

/-!
# Requests of every kind
-/

namespace Renderflow

inductive JobRequest where
  | generation (request : GenerationRequest)
  | variation (request : VariationRequest)
  | upscale (request : UpscaleRequest)
  | edit (request : EditRequest)
  | animation (request : AnimationRequest)

namespace JobRequest

/-- The request as a follow-up of a finished job. -/
def ofSource (details : JobDetails) : JobRequest → JobRequest
  | variation r => variation { r with source := some details }
  | upscale r => upscale { r with source := some details }
  | animation r => animation { r with source := details }
  | other => other

def compile (r : JobRequest) (c : JobContext) (reply : Option EnhancerReply := none) :
    Except CompileError Compiled :=
  match r with
  | generation r => r.compile c
  | variation r => r.compile c
  | upscale r => r.compile c
  | edit r => r.compile c
  | animation r => r.compile c reply

/-- The places that are asked for an image before the request is compiled. -/
def locations : JobRequest → List String
  | generation r =>
    match (r.image.bind Text.nonBlank?).map Image.Spec.parse with
    | some (.ok spec) => [spec.location]
    | _ => []
  | edit r => r.images.map Text.trim
  | _ => []

end JobRequest

end Renderflow
