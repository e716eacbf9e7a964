import Renderflow.Proofs.Job.Ids
import Renderflow.Proofs.Job.Twins

/-!
# Captions of animations

The service that writes captions is not to be relied on: it may be absent, fail, take too long or
give a blank text. Whatever it does shows in the caption of an animation and in what the record
says about it, and nowhere else.
-/

namespace Renderflow

open Animation

/-- A reply in time with a text that is not blank, once it is trimmed. -/
def EnhancerReply.Gives (reply : Option EnhancerReply) (text : String) : Prop :=
  ∃ e answer, reply = some e ∧ ¬ Float.ofNat patience < e.delay ∧ e.answer = .ok answer ∧
    Text.trim answer = text ∧ text ≠ ""

section

variable {reply : Option EnhancerReply} {text : String}

end

namespace AnimationRequest

variable {r : AnimationRequest} {c : JobContext} {reply reply' : Option EnhancerReply}
  {x : Compiled} {s : ModeSpec}

end AnimationRequest

end Renderflow
