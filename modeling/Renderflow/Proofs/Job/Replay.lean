import Renderflow.Proofs.Job.Compile
import Renderflow.Proofs.Job.Context
import Renderflow.Proofs.Job.Planned
import Renderflow.Proofs.Model
import Renderflow.Proofs.OutputPath

/-!
# Replaying a generation

The record of a generation is a fixed point of all that settles its values: a request with the
values of the record is planned as the request was, up to the id of the job in the name of its
files.
-/

namespace Renderflow

theorem selectedModel_selection {requested : Option String} {s : Settings} {m : Model}
    (h : selectedModel requested s = .ok m) :
    selectedModel (some m.selection) s = .ok { m with inferred := false } := by
  unfold selectedModel at h
  split at h
  · cases h
  · obtain ⟨htrimmed, hne⟩ := Model.filename_of_resolve h
    simp [selectedModel, Model.nonBlank?_selection htrimmed hne, Model.resolve_selection h]

namespace GenerationRequest

/-- The request with the values of a record. -/
def replay (r : GenerationRequest) (d : JobDetails) : GenerationRequest :=
  { r with
    model := d.selectedModel
    style := d.style
    negativePrompt := d.negativePrompt
    seed := d.seed
    steps := d.steps
    guidance := d.guidance
    aspectRatio := d.aspectRatio
    batchSize := d.batchSize }

variable {r : GenerationRequest} {c : JobContext} {model : Model} {start : Start} {s : ModeSpec}
  {style : ResolvedStyle}

/-- A replay starts from the same image, or from a size of the recorded ratio and number. -/
theorem start_replay (h : r.start c = .ok start) (jobId : String) (freshSeed : Int64) :
    (r.replay (r.details c model start s style)).start { c with jobId, freshSeed } = .ok start := by
  have hreplay : (r.replay (r.details c model start s style)).image = r.image := rfl
  unfold GenerationRequest.start at h ⊢
  rw [hreplay]
  cases himage : r.image.bind Text.nonBlank? with
  | some text =>
    simp only [himage] at h ⊢
    exact h
  | none =>
    simp only [himage] at h ⊢
    obtain ⟨ratio, hratio, hstart⟩ := bind_eq_ok_iff.1 h
    rw [CompileError.validation_eq_ok_iff] at hratio
    cases hstart
    simp only [replay, details, Start.record, AspectRatio.resolve_resolved hratio,
      batchSize_batchSize]
    rfl

theorem sampling_replay (jobId : String) (freshSeed : Int64) (denoise : Float) :
    (r.replay (r.details c model start s style)).sampling { c with jobId, freshSeed } model.family
      denoise = r.sampling c model.family denoise := by
  have hsteps := Sampling.resolveSteps_of_isSteps c.settings model.family
    (Sampling.isSteps_resolveSteps c.settings model.family r.steps)
  have hguidance := Sampling.resolveGuidance_of_isGuidance c.settings model.family
    (Sampling.isGuidance_resolveGuidance c.settings model.family r.guidance)
  cases start <;> simp [sampling, replay, details, Start.record, hsteps, hguidance]

/-- A mode that drops the negative prompt does so in a replay, and the others find it recorded. -/
theorem promptBindings_replay (jobId : String) (freshSeed : Int64) :
    s.promptBindings (r.replay (r.details c model start s style)).prompt
        ((r.replay (r.details c model start s style)).negative { c with jobId, freshSeed }
          model.family) =
      s.promptBindings r.prompt (r.negative c model.family) := by
  cases hnegative : s.negativePrompt with
  | none => simp [ModeSpec.promptBindings, hnegative, ModeSpec.ifRole, replay]
  | some node =>
    have hrecorded : (r.details c model start s style).negativePrompt =
        some (r.negative c model.family) := by
      cases start <;> simp [details, Start.record, ModeSpec.recordedNegative, hnegative]
    simp [negative, replay, hrecorded]

/-- A replay is planned with the bindings of the request, but for the name of the files. -/
theorem exists_planned_replay {p : Plan} (hp : r.Planned c p) (jobId : String) (freshSeed : Int64) :
    ∃ p' family s kind bs, (r.replay p.details).Planned { c with jobId, freshSeed } p' ∧
      p.details.family = some family ∧ modeSpec family (JobRequest.generation r).mode = .ok s ∧
      p'.template = p.template ∧
      p.bindings = bs ++ s.outputBindings
        (OutputPath.stem c.settings.outputs.generations kind c.jobId none) ∧
      p'.bindings = bs ++ s.outputBindings
        (OutputPath.stem c.settings.outputs.generations kind jobId none) := by
  obtain @⟨model, start, s, style, _, _, _, _, _, _, hmodel, hstart, hspec, hstyle, htemplate,
    hloaders, hsecond, hlora, hsamplers, hsource⟩ := hp
  have hmodel' : selectedModel (r.replay (r.details c model start s style)).model c.settings =
      .ok { model with inferred := false } := by
    cases start <;> exact selectedModel_selection hmodel
  have hstyle' : ResolvedStyle.resolve c.styles (requestedStyle
      (r.replay (r.details c model start s style)).style c.settings model.family) model.family =
        .ok style := by
    cases start <;> exact ResolvedStyle.resolve_resolved hstyle c.settings
  have hplanned : (r.replay (r.details c model start s style)).Planned
      { c with jobId, freshSeed } _ :=
    .intro hmodel' (start_replay hstart jobId freshSeed) hspec hstyle' htemplate hloaders hsecond
      hlora (by rw [sampling_replay]; exact hsamplers) hsource
  refine ⟨_, model.family, s, start.fileKind, _, hplanned, by cases start <;> rfl, ?_, rfl, rfl, ?_⟩
  · rw [← (r.start_delivers c).value start hstart]
    exact hspec
  · simp only [promptBindings_replay]

/-- A replay of a compiled generation is compiled to the same graph, but for the name of the files.
The names have the same text before the ids of the two jobs. -/
theorem compile_replay {x : Compiled} (h : r.compile c = .ok x) (jobId : String)
    (freshSeed : Int64) :
    ∃ x' family s kind, (r.replay x.details).compile { c with jobId, freshSeed } = .ok x' ∧
      x.details.family = some family ∧ modeSpec family (JobRequest.generation r).mode = .ok s ∧
      x.graph.value? s.save "filename_prefix" =
        some (.str (OutputPath.stem c.settings.outputs.generations kind c.jobId none)) ∧
      x.graph.setInput s.save "filename_prefix"
        (.str (OutputPath.stem c.settings.outputs.generations kind jobId none)) = .ok x'.graph ∧
      ∃ head, ∀ id : String, (∀ ch ∈ id.toList, OutputPath.isSeparator ch = false) →
        OutputPath.stem c.settings.outputs.generations kind id none = head ++ id := by
  obtain ⟨p, hp, hx⟩ := bind_eq_ok_iff.1 h
  obtain ⟨p', family, s, kind, bs, hp', hfamily, hspec, htemplate, hbindings, hbindings'⟩ :=
    exists_planned_replay (plan_eq_ok_iff.1 hp) jobId freshSeed
  obtain ⟨x', hx', hvalue, hset⟩ :=
    Plan.exists_compile_of_set_last hbindings htemplate hbindings' hx
  obtain ⟨d, -, rfl⟩ := Plan.compile_eq_ok_iff.1 hx
  exact ⟨x', family, s, kind, bind_eq_ok_iff.2 ⟨p', plan_eq_ok_iff.2 hp', hx'⟩, hfamily, hspec,
    hvalue, hset, OutputPath.exists_stem_eq_append _ kind⟩

/-- A request that leaves its family to the name of its model, asks for no steps and no images,
and has a negative prompt that its mode drops. -/
def looseRequest : GenerationRequest :=
  { prompt := "a lighthouse"
    negativePrompt := some "fog"
    model := some " dev.gguf"
    steps := some 0
    batchSize := some 0 }

/-- A loose request is compiled, and so is its replay. -/
theorem compile_replay_loose :
    ∃ x, looseRequest.compile JobRequest.sampleContext = .ok x ∧
      ∃ x' family s kind, (looseRequest.replay x.details).compile
          { JobRequest.sampleContext with jobId := "0000cafe", freshSeed := 9 } = .ok x' ∧
        x.details.family = some family ∧ modeSpec family .txt2img = .ok s ∧
        x.graph.value? s.save "filename_prefix" = some (.str (OutputPath.stem
          JobRequest.sampleContext.settings.outputs.generations kind "0000beef" none)) ∧
        x.graph.setInput s.save "filename_prefix" (.str (OutputPath.stem
          JobRequest.sampleContext.settings.outputs.generations kind "0000cafe" none)) =
            .ok x'.graph ∧
        ∃ head, ∀ id : String, (∀ ch ∈ id.toList, OutputPath.isSeparator ch = false) →
          OutputPath.stem JobRequest.sampleContext.settings.outputs.generations kind id none =
            head ++ id := by
  obtain ⟨x, hx⟩ := JobRequest.exists_compile_of_plan (.generation looseRequest)
    JobRequest.sampleContext none (by decide)
  exact ⟨x, hx, compile_replay hx "0000cafe" 9⟩

end GenerationRequest

end Renderflow
