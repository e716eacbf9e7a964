import Renderflow.Job.Plan

/-!
# Follow-up jobs

What a variation or an upscale takes from the job that made its image. The details of that
job may be missing, and a style that is no longer known is left out without complaint.
-/

namespace Renderflow.FollowUp

/-- A style that can be resolved: one of the book, or none. -/
def isKnown (c : JobContext) (name : String) : Bool :=
  ResolvedStyle.isOff name || c.styles.contains name

/-- The requested style, else that of the source job, else none. -/
def styleName (c : JobContext) (requested : Option String) (source : Option JobDetails) : String :=
  let requested := (requested.bind Text.nonBlank?).filter (isKnown c)
  let inherited := ((source.bind (·.style)).map Text.trim).filter (isKnown c)
  (requested.or inherited).getD "off"

/-- The id of the source job in the names of files. -/
def sourceId (source : Option JobDetails) : String :=
  ((source.map (·.jobId)).bind Text.nonBlank?).getD "unknownSrc"

/-- Images are counted from one. -/
def imageIndex (n : UInt32) : UInt32 :=
  max n 1

def imageLabel (n : UInt32) (source : Option JobDetails) : String :=
  "from_img" ++ toString (imageIndex n).toNat ++ "_srcID" ++ sourceId source

end Renderflow.FollowUp
