import Renderflow.Proofs.Files
import Renderflow.Proofs.Job.Objects
import Renderflow.Proofs.Run.Outcome
import Renderflow.Run.Perform

/-!
# What a run gives away

A run whose job does not succeed prints no graph, leaves all files as they were and sends nothing.
A run whose job succeeds gives one and the same graph away: on the standard output or in a file,
but not in both, and to the engine if it is asked to. Either way it first prints how the job ended.
-/

namespace Renderflow

namespace Report

/-- A run that fails after it has printed some documents, none a graph, and done nothing else. -/
structure Withholds (r : Report) (files : FileTree) (documents : List Json)
    (failure : Failure) : Prop where
  failure : r.failure = some failure
  printed : r.printed = documents
  noGraph : ∀ document ∈ documents, Graph.ofJson? document = none
  files : r.files = files
  sent : r.sent = []

/-- The one place that takes a graph: the standard output, after the summary of the job, or a file
that is read back as it was written. Nothing else in the files is changed, and no other document
that is printed is a graph. -/
inductive Gives (r : Report) (files : FileTree) (summary : Json) (graph : Graph) :
    Option String → Prop where
  | stdout (after : List Json) (hprinted : r.printed = summary :: graph.toJson :: after)
      (hother : ∀ document ∈ summary :: after, Graph.ofJson? document = none)
      (hfiles : r.files = files) : r.Gives files summary graph none
  | file {file : String} {place : List String} (after : List Json)
      (hprinted : r.printed = summary :: after)
      (hother : ∀ document ∈ summary :: after, Graph.ofJson? document = none)
      (hplace : files.Admits file place)
      (hcontent : r.files.read? file = some graph.toJson.pretty)
      (hfiles : files.AgreesBut r.files place) : r.Gives files summary graph (some file)

variable {r r' : Report} {files : FileTree} {summary : Json} {graph : Graph}
  {output : Option String}

/-- What is delivered is seen on the standard output and in the files alone. -/
theorem Gives.congr (h : r.Gives files summary graph output) (hprinted : r'.printed = r.printed)
    (hfiles : r'.files = r.files) : r'.Gives files summary graph output := by
  cases h with
  | stdout after hgraph hother htree =>
    exact .stdout after (hprinted.trans hgraph) hother (hfiles.trans htree)
  | file after hgraph hother hplace hcontent htree =>
    exact .file after (hprinted.trans hgraph) hother hplace (hfiles ▸ hcontent) (hfiles ▸ htree)

/-- A document that is no graph may be printed after the delivery. -/
theorem Gives.print (h : r.Gives files summary graph output) {document : Json}
    (hdocument : Graph.ofJson? document = none) :
    { r with printed := r.printed ++ [document] }.Gives files summary graph output := by
  have hlast {after : List Json} (hother : ∀ other ∈ summary :: after, Graph.ofJson? other = none) :
      ∀ other ∈ summary :: (after ++ [document]), Graph.ofJson? other = none := by
    rw [← List.cons_append]
    exact List.forall_mem_append.2 ⟨hother, by simpa using hdocument⟩
  cases h with
  | stdout after hgraph hother htree =>
    exact .stdout (after ++ [document]) (by simp [hgraph]) (hlast hother) htree
  | file after hgraph hother hplace hcontent htree =>
    exact .file (after ++ [document]) (by simp [hgraph]) (hlast hother) hplace hcontent htree

end Report

/-! ## Steps -/

namespace Step

variable (engine : Engine) {r : Report} {files : FileTree} {summary : Json} {graph : Graph}
  {output : Option String}

end Step

/-! ## Runs -/

namespace Script

variable {engine : Engine} {steps rest : List Step} {r : Report}

end Script

namespace Script

variable (engine : Engine) {files : FileTree} {o : Outside} {i : CommandLine.Invocation}
  {config : Config} {graph : Graph} {x : Compiled}

/-- What follows the delivery of a graph, and what ends the run after it. -/
inductive Follows (i : CommandLine.Invocation) (o : Outside) (config : Config) (graph : Graph) :
    List Step → Option Failure → Prop where
  | unasked (hsubmit : i.submit = false) : Follows i o config graph [] none
  | noEndpoint (e : EndpointError) (hsubmit : i.submit)
      (hendpoint : Endpoint.ofAddress config.engineAddress = .error e) :
      Follows i o config graph [] (some (.endpoint e))
  | submit (endpoint : Url) (hsubmit : i.submit)
      (hendpoint : Endpoint.ofAddress config.engineAddress = .ok endpoint) :
      Follows i o config graph [.submit endpoint { graph, clientId := o.clientId }] none

end Script

/-! ## The program -/

/-- What a run of the program has done. -/
def Report.of (o : Outside) (args : List String) (engine : Engine) (files : FileTree) : Report :=
  (Script.of o args).perform engine files

namespace Report

theorem Withholds.exitCode {r : Report} {files : FileTree} {documents : List Json}
    {failure : Failure} (h : r.Withholds files documents failure) :
    r.exitCode = failure.exitCode := by
  rw [Report.exitCode, h.failure]
  rfl

end Report

end Renderflow
