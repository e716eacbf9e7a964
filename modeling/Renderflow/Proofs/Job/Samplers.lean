import Renderflow.Proofs.Job.Loaders

/-!
# What the samplers of a job take

A request and the settings of its family yield the values of a sampling. A job binds them into its
samplers and records them, but an upscale, which keeps those of its template.
-/

namespace Renderflow

/-- A record tells the values of a sampling, though not always the denoise. -/
structure Sampling.RecordedIn (p : Sampling) (d : JobDetails) : Prop where
  seed : d.seed = some p.seed
  steps : d.steps = some p.steps
  guidance : d.guidance = some p.guidance
  denoise : ∀ x, d.denoise = some x → x = p.denoise

namespace JobRequest

/-- The values that a request yields for the samplers of a family. -/
inductive Yields (c : JobContext) : Family → JobRequest → Sampling → Prop
  | generation {family : Family} (r : GenerationRequest) (start : Start)
    (hstart : r.start c = .ok start) :
    Yields c family (generation r) (r.sampling c family start.denoise)
  | variation {family : Family} (r : VariationRequest) :
    Yields c family (variation r) (r.sampling c family)
  | fluxEdit (r : EditRequest) : Yields c .flux (edit r) (r.fluxSampling c)
  | qwenEdit (r : EditRequest) : Yields c .qwen (edit r) (r.qwenSampling c)
  | animation (r : AnimationRequest) : Yields c .wan (animation r) (r.sampling c)

variable {r : JobRequest} {c : JobContext} {reply : Option EnhancerReply}

/-- A plan binds the samplers of its mode to the values that its request yields and that it
records. -/
theorem exists_sampling_of_plan {p : Plan} (hp : r.plan c reply = .ok p) {family : Family}
    (hfamily : p.details.family = some family) (hmode : r.mode ≠ .upscale) :
    ∃ s template sampling samplers, modeSpec family r.mode = .ok s ∧ s.graph = .ok template ∧
      s.samplerBindings template sampling = .ok samplers ∧ samplers ⊆ p.bindings ∧
      r.Yields c family sampling ∧ sampling.RecordedIn p.details := by
  cases r with
  | generation r =>
    obtain @⟨m, begin, s, _, template, _, _, _, samplers, _, -, hstart, hspec, -, htemplate, -, -,
      -, hsamplers, -⟩ := GenerationRequest.plan_eq_ok_iff.1 hp
    obtain rfl : m.family = family := by
      cases begin <;> exact Option.some.inj hfamily
    rw [(r.start_delivers c).value begin hstart] at hspec
    refine ⟨s, template, _, samplers, hspec, htemplate, hsamplers, fun b hb => by simp [hb],
      .generation r begin hstart, ?_⟩
    cases begin <;> exact ⟨rfl, rfl, rfl, fun x hx => (Option.some.inj hx).symm⟩
  | variation r =>
    obtain @⟨m, s, _, template, _, _, _, samplers, _, -, hspec, -, htemplate, -, -, -, hsamplers,
      -⟩ := VariationRequest.plan_eq_ok_iff.1 hp
    obtain rfl : m.family = family := Option.some.inj hfamily
    exact ⟨s, template, _, samplers, hspec, htemplate, hsamplers, fun b hb => by simp [hb],
      .variation r, rfl, rfl, rfl, fun x hx => (Option.some.inj hx).symm⟩
  | upscale r => exact absurd rfl hmode
  | edit r =>
    rcases EditRequest.plan_eq_ok_iff.1 hp with ⟨-, hflux⟩ | ⟨-, hqwen⟩
    · obtain rfl : .flux = family := Option.some.inj (hflux.family_eq.symm.trans hfamily)
      obtain @⟨s, _, _, _, _, template, _, samplers, _, hspec, -, -, -, -, -, htemplate, -,
        hsamplers, -⟩ := hflux
      exact ⟨s, template, _, samplers, hspec, htemplate, hsamplers, fun b hb => by simp [hb],
        .fluxEdit r, rfl, rfl, rfl, fun x hx => (Option.some.inj hx).symm⟩
    · obtain rfl : .qwen = family := Option.some.inj (hqwen.family_eq.symm.trans hfamily)
      obtain @⟨s, _, _, template, _, samplers, _, hspec, -, -, -, htemplate, -, hsamplers, -⟩ :=
        hqwen
      exact ⟨s, template, _, samplers, hspec, htemplate, hsamplers, fun b hb => by simp [hb],
        .qwenEdit r, rfl, rfl, rfl, fun x hx => (Option.some.inj hx).symm⟩
  | animation r =>
    obtain @⟨s, _, template, _, _, _, samplers, hspec, -, htemplate, -, -, -, hsamplers⟩ :=
      AnimationRequest.plan_eq_ok_iff.1 hp
    obtain rfl : .wan = family := Option.some.inj hfamily
    exact ⟨s, template, _, samplers, hspec, htemplate, hsamplers, fun b hb => by simp [hb],
      .animation r, rfl, rfl, rfl, by simp [AnimationRequest.details]⟩

end JobRequest

/-! ## The samplers of a compiled job -/

namespace ModeSpec

variable {s : ModeSpec} {bs : List Binding}

theorem note_samplerBindings {template : Graph} {p : Sampling}
    (h : s.samplerBindings template p = .ok bs) : ∀ b ∈ bs, b.note ≠ none := by
  unfold samplerBindings at h
  split at h
  · obtain ⟨first, hfirst, hrest⟩ := bind_eq_ok_iff.1 h
    obtain ⟨final, hfinal, hbs⟩ := bind_eq_ok_iff.1 hrest
    obtain ⟨_, -, hfirst⟩ := bind_eq_ok_iff.1 hfirst
    obtain ⟨_, -, hfinal⟩ := bind_eq_ok_iff.1 hfinal
    cases hbs
    cases hfirst
    cases hfinal
    simp [Binding.set]
  · obtain ⟨input, -, hbs⟩ := bind_eq_ok_iff.1 h
    cases hbs
    cases s.guidance <;> simp [Binding.set]

/-- What is noted of a plan is bound after its stitching. -/
theorem mem_of_note {p : Plan} {family : Family} {images : Nat} {template : Graph}
    (hbindings : p.bindings = s.stitchBindings family images template ++ bs) {b : Binding}
    (hb : b ∈ p.bindings) (hnote : b.note ≠ none) : b ∈ bs := by
  rw [hbindings, List.mem_append] at hb
  exact hb.resolve_left fun hstitch => hnote (note_stitchBindings b hstitch)

end ModeSpec

/-- The samplers of a compiled job take the values of a sampling, which its request yields and its
record tells. -/
structure Compiled.SampledBy (x : Compiled) (r : JobRequest) (c : JobContext) (family : Family)
    (s : ModeSpec) (l start : Layout) (p : Sampling) : Prop where
  spec : modeSpec family r.mode = .ok s
  sound : s.Sound family (r.extent c).images l start
  ofFamily : x.details.family = some family
  yields : r.Yields c family p
  recorded : p.RecordedIn x.details
  bound : ∃ bs samplers, start.graph.Bound x.graph (s.footprint family (r.extent c)) bs ∧
    s.samplerBindings l.graph p = .ok samplers ∧ samplers ⊆ bs

namespace Compiled.SampledBy

variable {x : Compiled} {r : JobRequest} {c : JobContext} {family : Family} {s : ModeSpec}
  {l start : Layout} {p : Sampling}

theorem exists_bound (h : x.SampledBy r c family s l start p) :
    ∃ bs, start.graph.Bound x.graph (s.footprint family (r.extent c)) bs ∧ s.Samples p bs := by
  obtain ⟨bs, samplers, hbound, hsamplers, hsub⟩ := h.bound
  obtain ⟨samplers', hsamplers', -, hsamples⟩ := h.sound.exists_samplerBindings p
  obtain rfl : samplers = samplers' := Except.ok.inj (hsamplers.symm.trans hsamplers')
  exact ⟨bs, hbound, hsamples.mono hsub⟩

theorem value?_steps (h : x.SampledBy r c family s l start p) {node : String}
    (hnode : node ∈ s.samplers) : x.graph.value? node "steps" = some (.ofUInt32 p.steps) := by
  obtain ⟨bs, hbound, hsamples⟩ := h.exists_bound
  exact hbound.value?_of_binds (hsamples.steps node hnode)

theorem value?_guidance (h : x.SampledBy r c family s l start p) {i : String × String}
    (hi : i ∈ s.guidanceInputs) : x.graph.value? i.1 i.2 = some (.float p.guidance) := by
  obtain ⟨bs, hbound, hsamples⟩ := h.exists_bound
  exact hbound.value?_of_binds (hsamples.guidance i hi)

end Compiled.SampledBy

/-- Every compiled job but an upscale is sampled by what its request yields. -/
theorem JobRequest.exists_sampledBy_of_compile {r : JobRequest} {c : JobContext}
    {reply : Option EnhancerReply} {x : Compiled} (h : r.compile c reply = .ok x)
    (hmode : r.mode ≠ .upscale) :
    ∃ family s l start sampling, x.SampledBy r c family s l start sampling := by
  obtain ⟨p, family, s, l, start, notes, hp, hfollows, hx, hrecord⟩ := exists_plan_of_compile h
  obtain ⟨bs, hbindings, -, hbound, -⟩ := hfollows.exists_bound hx
  obtain ⟨s', template, sampling, samplers, hspec, htemplate, hsamplers, hsub, hyields,
    hrecorded⟩ := exists_sampling_of_plan hp hfollows.ofFamily hmode
  obtain rfl : s = s' := Except.ok.inj (hfollows.spec.symm.trans hspec)
  obtain rfl : l.graph = template := Except.ok.inj (hfollows.sound.graph.symm.trans htemplate)
  refine ⟨family, s, l, start, sampling, ⟨hspec, hfollows.sound, ?_, hyields, ?_, bs, samplers,
    hbound, hsamplers, fun b hb => ?_⟩⟩
  · rw [hrecord]
    exact hfollows.ofFamily
  · rw [hrecord]
    exact ⟨hrecorded.seed, hrecorded.steps, hrecorded.guidance, hrecorded.denoise⟩
  · exact ModeSpec.mem_of_note hbindings (hsub hb) (ModeSpec.note_samplerBindings hsamplers b hb)

end Renderflow
