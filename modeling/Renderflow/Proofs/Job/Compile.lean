import Renderflow.Proofs.Job.Animation
import Renderflow.Proofs.Job.Edit
import Renderflow.Proofs.Job.Upscale
import Renderflow.Proofs.Job.Variation

/-!
# Compiled jobs

What holds of every job that is compiled: its graph is wired, its record reports what the
graph holds, and the graph is that of its template but for what the job is meant to bind. No
request and no answer of the world ends in a defect.
-/

namespace Renderflow

namespace JobRequest

/-- The plan of a request. -/
def plan (c : JobContext) (reply : Option EnhancerReply) : JobRequest → Except CompileError Plan
  | generation r => r.plan c
  | variation r => r.plan c
  | upscale r => r.plan c
  | edit r => r.plan c
  | animation r => r.plan c reply

theorem compile_eq (r : JobRequest) (c : JobContext) (reply : Option EnhancerReply) :
    r.compile c reply = r.plan c reply >>= Plan.compile := by
  cases r <;> rfl

theorem plan_delivers (r : JobRequest) (c : JobContext) (reply : Option EnhancerReply) :
    Delivers (r.plan c reply) fun p => ∃ family s l start,
      p.Follows r.mode (r.extent c) family s l start := by
  cases r with
  | generation r => exact r.plan_delivers c
  | variation r => exact r.plan_delivers c
  | upscale r => exact r.plan_delivers c
  | edit r => exact r.plan_delivers c
  | animation r => exact r.plan_delivers c reply

theorem compile_delivers (r : JobRequest) (c : JobContext) (reply : Option EnhancerReply) :
    Delivers (r.compile c reply) fun x => ∃ family s l start,
      x.Conforms r.mode (r.extent c) family s l start := by
  rw [compile_eq]
  apply Delivers.bind (r.plan_delivers c reply)
  intro p hp
  obtain ⟨family, s, l, start, hfollows⟩ := hp
  obtain ⟨x, hx, hconforms⟩ := hfollows.exists_compile
  rw [hx]
  exact .ok ⟨family, s, l, start, hconforms⟩

/-- A request is compiled as soon as it is planned. -/
theorem exists_compile_of_plan (r : JobRequest) (c : JobContext) (reply : Option EnhancerReply)
    (h : (r.plan c reply).isOk) : ∃ x, r.compile c reply = .ok x := by
  cases hp : r.plan c reply with
  | error e => simp [hp, Except.isOk, Except.toBool] at h
  | ok p =>
    obtain ⟨family, s, l, start, hfollows⟩ := (r.plan_delivers c reply).value p hp
    obtain ⟨x, hx, -⟩ := hfollows.exists_compile
    exact ⟨x, by rw [compile_eq, hp]; exact hx⟩

/-- A compiled job comes of a plan, and its record is that of the plan but for what was bound. -/
theorem exists_plan_of_compile {r : JobRequest} {c : JobContext} {reply : Option EnhancerReply}
    {x : Compiled} (h : r.compile c reply = .ok x) :
    ∃ p family s l start notes, r.plan c reply = .ok p ∧
      p.Follows r.mode (r.extent c) family s l start ∧ p.compile = .ok x ∧
      x.details = { p.details with parametersUsed := notes } := by
  rw [compile_eq] at h
  obtain ⟨p, hp, hx⟩ := bind_eq_ok_iff.1 h
  obtain ⟨family, s, l, start, hfollows⟩ := (r.plan_delivers c reply).value p hp
  obtain ⟨d, -, hcompiled⟩ := Plan.compile_eq_ok_iff.1 hx
  exact ⟨p, family, s, l, start, d.notes, hp, hfollows, hx, congrArg Compiled.details hcompiled⟩

/-- A context in which every file is there and models are set. -/
def sampleContext : JobContext where
  settings :=
    { selectedModel := some "sdxl: base.safetensors"
      kontextModel := some "kontext.gguf"
      wanLowNoiseUnet := some "low_noise.gguf" }
  styles := .empty
  world := { contentType := fun _ => .ok (some "image/png"), entry := fun _ => some .file }
  jobId := "0000beef"
  freshSeed := 7

variable {r : JobRequest} {c : JobContext} {reply : Option EnhancerReply} {x : Compiled}

/-! ## Wiring -/

/-- The graph of a compiled job is wired: its nodes are those of the mode and those that the
job adds, no connection dangles, none leads round to its node, and every role is upstream of
the node that saves the result. -/
theorem compile_wired (h : r.compile c reply = .ok x) :
    ∃ family s, x.details.family = some family ∧ modeSpec family r.mode = .ok s ∧
      x.graph.Wired (s.nodes ++ s.added family (r.extent c).images) s.roleNodes s.save := by
  obtain ⟨family, s, l, start, hconforms⟩ := (r.compile_delivers c reply).value x h
  obtain ⟨bs, hbound⟩ := hconforms.bound
  exact ⟨family, s, hconforms.ofFamily, hconforms.spec, hconforms.sound.wired.congr hbound.wiring⟩

/-- An edit of three images is compiled to a wired graph. -/
theorem compile_wired_three_images :
    ∃ x, (edit { family := some .flux, images := ["a.png", "b.png", "c.png"] }).compile
        sampleContext = .ok x ∧
      ∃ family s, x.details.family = some family ∧ modeSpec family .edit = .ok s ∧
        x.graph.Wired (s.nodes ++ s.added family 3) s.roleNodes s.save := by
  obtain ⟨x, hx⟩ := exists_compile_of_plan
    (edit { family := some .flux, images := ["a.png", "b.png", "c.png"] }) sampleContext none
    (by decide)
  exact ⟨x, hx, compile_wired hx⟩

/-! ## Outcomes -/

/-- A job is compiled, with all of its outcome there, or it is rejected, with the text of the
error alone. The error is never a defect of a template. -/
theorem compile_outcome (r : JobRequest) (c : JobContext) (reply : Option EnhancerReply) :
    (∀ cause, r.compile c reply ≠ .error (.internal cause)) ∧
      ((∃ x, r.compile c reply = .ok x ∧ CompileOutcome.of (r.compile c reply) =
          { jobId := some x.details.jobId
            graph := some x.graph
            message := x.message
            details := some x.details
            status := .succeeded }) ∨
        ∃ e, r.compile c reply = .error e ∧ CompileOutcome.of (r.compile c reply) =
          { jobId := none
            graph := none
            message := e.message
            details := none
            status := .rejected }) := by
  have hdelivers := r.compile_delivers c reply
  refine ⟨fun cause hcause => by simpa [CompileError.isInternal] using hdelivers.error _ hcause, ?_⟩
  cases hx : r.compile c reply with
  | ok x => exact .inl ⟨x, rfl, rfl⟩
  | error e =>
    refine .inr ⟨e, rfl, ?_⟩
    cases e with
    | internal cause => simpa [CompileError.isInternal] using hdelivers.error _ hx
    | validation cause => rfl
    | resource cause => rfl

/-! ## Records -/

/-- The record of a compiled job reports what its graph holds. -/
theorem compile_reports (h : r.compile c reply = .ok x) :
    ∃ family s, x.details.family = some family ∧ modeSpec family r.mode = .ok s ∧
      x.graph.Reports s family (r.extent c).images x.details := by
  obtain ⟨family, s, l, start, hconforms⟩ := (r.compile_delivers c reply).value x h
  exact ⟨family, s, hconforms.ofFamily, hconforms.spec, hconforms.reports⟩

/-- An upscale is compiled, and its record reports its graph. -/
theorem compile_reports_upscale :
    ∃ x, (upscale { image := "a.png" }).compile sampleContext = .ok x ∧
      ∃ family s, x.details.family = some family ∧ modeSpec family .upscale = .ok s ∧
        x.graph.Reports s family 1 x.details := by
  obtain ⟨x, hx⟩ := exists_compile_of_plan (upscale { image := "a.png" }) sampleContext none
    (by decide)
  exact ⟨x, hx, compile_reports hx⟩

/-! ## What is left as it was -/

/-- Outside of what a job of its mode may write, the graph of a compiled job has the inputs,
the nodes, their classes and their titles of the template. -/
theorem compile_frame (h : r.compile c reply = .ok x) :
    ∃ family s template, x.details.family = some family ∧ modeSpec family r.mode = .ok s ∧
      s.graph = .ok template ∧
      (∀ id name, (∀ f ∈ s.reach family (r.extent c), ¬ f.Covers id name) →
        x.graph.value? id name = template.value? id name) ∧
      (∀ id, (∀ f ∈ s.reach family (r.extent c), ¬ f.CoversNode id) →
        x.graph.label? id = template.label? id) ∧
      (family = .flux →
        x.graph.value? s.sampler "cfg" = template.value? s.sampler "cfg") := by
  obtain ⟨family, s, l, start, hconforms⟩ := (r.compile_delivers c reply).value x h
  obtain ⟨bs, hbound⟩ := hconforms.bound
  have hvalue : ∀ id name, (∀ f ∈ s.reach family (r.extent c), ¬ f.Covers id name) →
      x.graph.value? id name = l.graph.value? id name := by
    intro id name hout
    rw [hbound.value? id name fun f hf => hout f (List.mem_append_left _ hf)]
    exact hconforms.sound.value?_start fun f hf => hout f (List.mem_append_right _ hf)
  refine ⟨family, s, l.graph, hconforms.ofFamily, hconforms.spec, hconforms.sound.graph, hvalue,
    fun id hout => ?_, fun hflux => hvalue s.sampler "cfg" fun f hf => ?_⟩
  · rw [hbound.label? id fun f hf => hout f (List.mem_append_left _ hf)]
    exact hconforms.sound.label?_start fun f hf => hout f (List.mem_append_right _ hf)
  · exact hconforms.sound.cfg hflux f ((s.reach_sublist family (r.extent c)).subset hf)

/-- An animation is compiled within its frame. -/
theorem compile_frame_animation :
    ∃ x, (animation { image := "a.png" }).compile sampleContext = .ok x ∧
      ∃ family s template, x.details.family = some family ∧ modeSpec family .animation = .ok s ∧
        s.graph = .ok template ∧
        (∀ id name,
          (∀ f ∈ s.reach family ((animation { image := "a.png" }).extent sampleContext),
            ¬ f.Covers id name) → x.graph.value? id name = template.value? id name) ∧
        (∀ id,
          (∀ f ∈ s.reach family ((animation { image := "a.png" }).extent sampleContext),
            ¬ f.CoversNode id) → x.graph.label? id = template.label? id) ∧
        (family = .flux →
          x.graph.value? s.sampler "cfg" = template.value? s.sampler "cfg") := by
  obtain ⟨x, hx⟩ := exists_compile_of_plan (animation { image := "a.png" }) sampleContext none
    (by decide)
  exact ⟨x, hx, compile_frame hx⟩

end JobRequest

end Renderflow
