import Renderflow.Proofs.Job.Family
import Renderflow.Proofs.Job.Samplers
import Renderflow.Proofs.Job.Window

/-!
# Two sampling stages

A WAN job samples in two stages, which share a seed, a number of steps and a guidance. The second
stage takes its latent image from the first one and goes on at the step where the first one stops.
-/

namespace Renderflow

/-- The second of two samplers goes on where the first one stops, with the same sampling values. -/
structure Graph.Stages (g : Graph) (first second : String) (p : Sampling)
    (window : UInt32 × UInt32) : Prop where
  distinct : first ≠ second
  seed : ∀ node ∈ [first, second], g.value? node "noise_seed" = some (.int p.seed)
  steps : ∀ node ∈ [first, second], g.value? node "steps" = some (.ofUInt32 p.steps)
  guidance : ∀ node ∈ [first, second], g.value? node "cfg" = some (.float p.guidance)
  start : g.value? first "start_at_step" = some (.ofUInt32 window.1)
  stop : g.value? first "end_at_step" = some (.ofUInt32 window.2)
  resume : g.value? second "start_at_step" = some (.ofUInt32 window.2)
  latent : g.link? second "latent_image" = some ⟨first, 0⟩

/-! ## The catalog -/

section

attribute [local instance] Text.decideEq

/-- Checks that the second of two samplers takes its latent image from the first one. -/
def ModeSpec.chained (s : ModeSpec) : Bool :=
  s.initialSampler.any fun first =>
    first ≠ s.sampler ∧
      (Template.layout? s.template).any fun l =>
        (l.value? s.sampler "latent_image").bind Value.link? = some ⟨first, 0⟩

theorem chained_of_mem_modes : ∀ s ∈ Family.wan.spec.modes, s.chained := by
  decide

end

namespace ModeSpec

variable {s : ModeSpec} {images : Nat} {l start : Layout}

theorem Sound.exists_link? {mode : Mode} (h : s.Sound .wan images l start)
    (hspec : modeSpec .wan mode = .ok s) :
    ∃ first, s.initialSampler = some first ∧ first ≠ s.sampler ∧
      l.graph.link? s.sampler "latent_image" = some ⟨first, 0⟩ := by
  have hchained := chained_of_mem_modes s (mem_modes_of_modeSpec hspec).1
  simp only [chained, h.template, Option.any_some, Option.any_eq_true, decide_eq_true_eq]
    at hchained
  obtain ⟨first, hfirst, hne, hlink⟩ := hchained
  exact ⟨first, hfirst, hne, (Layout.link?_graph l _ _).trans hlink⟩

/-- The bindings of two samplers, value by value. -/
theorem Sound.binds_of_samplerBindings {family : Family} (h : s.Sound family images l start)
    {first : String} (hfirst : s.initialSampler = some first) {p : Sampling} {bs : List Binding}
    (hbs : s.samplerBindings l.graph p = .ok bs) :
    s.Samples p bs ∧
      Binds bs first "start_at_step" (.ofUInt32 (Sampling.window p.steps p.denoise).1) ∧
      Binds bs first "end_at_step" (.ofUInt32 (Sampling.window p.steps p.denoise).2) ∧
      Binds bs s.sampler "start_at_step" (.ofUInt32 (Sampling.window p.steps p.denoise).2) := by
  obtain ⟨bs', hbs', -, hsamples⟩ := h.exists_samplerBindings p
  obtain rfl : bs' = bs := Except.ok.inj (hbs'.symm.trans hbs)
  refine ⟨hsamples, ?_⟩
  simp only [samplerBindings, hfirst] at hbs
  obtain ⟨initial, -, hrest⟩ := bind_eq_ok_iff.1 hbs
  obtain ⟨final, -, hlast⟩ := bind_eq_ok_iff.1 hrest
  obtain rfl := Except.ok.inj hlast
  exact ⟨.of_set (by simp), .of_set (by simp), .of_set (by simp)⟩

/-- A graph that the bindings of two samplers are part of samples in two stages. -/
theorem Sound.exists_stages (h : s.Sound .wan images l start) {mode : Mode}
    (hspec : modeSpec .wan mode = .ok s) {p : Sampling} {samplers bs : List Binding}
    (hsamplers : s.samplerBindings l.graph p = .ok samplers) {g : Graph} {fs : List Footprint}
    (hbound : l.graph.Bound g fs bs) (hsub : samplers ⊆ bs) :
    ∃ first, s.initialSampler = some first ∧
      g.Stages first s.sampler p (Sampling.window p.steps p.denoise) := by
  obtain ⟨first, hfirst, hdistinct, hlink⟩ := h.exists_link? hspec
  obtain ⟨hsamples, hstart, hstop, hresume⟩ := h.binds_of_samplerBindings hfirst hsamplers
  have hstages : s.samplers = [first, s.sampler] := by simp [ModeSpec.samplers, hfirst]
  have hseed : s.seedName = "noise_seed" := by simp [seedName, hfirst]
  have hguidance : ∀ node ∈ s.samplers, (node, "cfg") ∈ s.guidanceInputs := by
    simp [guidanceInputs, h.guidance_eq_none hfirst]
  have hvalue {node input : String} {v : Value} (hv : Binds samplers node input v) :
      g.value? node input = some v :=
    hbound.value?_of_binds (hv.mono hsub)
  refine ⟨first, hfirst, ?_⟩
  exact
    { distinct := hdistinct
      seed node hnode := hvalue (hseed ▸ hsamples.seed node (hstages ▸ hnode))
      steps node hnode := hvalue (hsamples.steps node (hstages ▸ hnode))
      guidance node hnode :=
        hvalue (hsamples.guidance (node, "cfg") (hguidance node (hstages ▸ hnode)))
      start := hvalue hstart
      stop := hvalue hstop
      resume := hvalue hresume
      latent := (hbound.wiring.link? _ _).trans hlink }

end ModeSpec

namespace JobRequest

variable {r : JobRequest} {c : JobContext} {reply : Option EnhancerReply}

/-- A job that starts from no image denoises all of it. -/
theorem Yields.denoise_eq_one {family : Family} {sampling : Sampling}
    (h : r.Yields c family sampling) (hmode : r.mode = .txt2img ∨ r.mode = .animation) :
    sampling.denoise = 1.0 := by
  cases h with
  | generation r start hstart =>
    rw [← (r.start_delivers c).value start hstart] at hmode
    cases start with
    | size => rfl
    | image => simp [Start.mode] at hmode
  | variation r => cases hr : r.strength <;> simp [mode, hr, VariationStrength.mode] at hmode
  | fluxEdit r | qwenEdit r => simp [mode] at hmode
  | animation r => rfl

/-- A plan for WAN binds the samplers of its mode to the values that it records. -/
theorem exists_samplers_of_plan {p : Plan} (hp : r.plan c reply = .ok p)
    (hwan : p.details.family = some .wan) :
    ∃ s template sampling samplers, modeSpec .wan r.mode = .ok s ∧ s.graph = .ok template ∧
      s.samplerBindings template sampling = .ok samplers ∧ samplers ⊆ p.bindings ∧
      sampling.RecordedIn p.details ∧
      (r.mode = .txt2img ∨ r.mode = .animation → sampling.denoise = 1.0) := by
  obtain ⟨family, _, _, _, hfollows⟩ := (r.plan_delivers c reply).value p hp
  obtain rfl : family = .wan := Option.some.inj (hfollows.ofFamily.symm.trans hwan)
  have hmode : r.mode ≠ .upscale := by
    intro hupscale
    have hspec := hfollows.spec
    rw [hupscale] at hspec
    cases hspec
  obtain ⟨s, template, sampling, samplers, hspec, htemplate, hsamplers, hsub, hyields, hrecorded⟩ :=
    exists_sampling_of_plan hp hwan hmode
  exact ⟨s, template, sampling, samplers, hspec, htemplate, hsamplers, hsub, hrecorded,
    hyields.denoise_eq_one⟩

/-- A compiled job that runs on WAN samples in two stages, which agree on the values that the record
tells. The first stage starts at or before the step where it hands over to the second one, and it
hands over in the second half of the steps. It starts at the first step unless the job starts from
an image that it keeps in part. -/
theorem compile_stages {x : Compiled} (h : r.compile c reply = .ok x)
    (hwan : x.details.family = some .wan ∨ r.mode = .animation) :
    ∃ s first sampling, modeSpec .wan r.mode = .ok s ∧ s.initialSampler = some first ∧
      sampling.RecordedIn x.details ∧
      x.graph.Stages first s.sampler sampling
        (Sampling.window sampling.steps sampling.denoise) ∧
      (r.mode = .txt2img ∨ r.mode = .animation →
        (Sampling.window sampling.steps sampling.denoise).1 = 0) ∧
      ∀ steps denoise, Sampling.Fits steps (Sampling.window steps denoise) := by
  obtain ⟨p, family, s, l, start, notes, hp, hfollows, hx, hrecord⟩ := exists_plan_of_compile h
  obtain ⟨bs, hbindings, -, hbound, -⟩ := hfollows.exists_bound hx
  have hfamily : p.details.family = some .wan := by
    rcases hwan with hwan | hanimation
    · rwa [hrecord] at hwan
    · exact family_of_plan (family_of_mode hanimation) hp
  obtain rfl : family = .wan := Option.some.inj (hfollows.ofFamily.symm.trans hfamily)
  have hstart : start = l := hfollows.sound.start_eq (by simp)
  have hstitch : ¬ (s.mode = .edit ∧ Family.wan = .flux) := by simp
  rw [ModeSpec.stitchBindings, if_neg hstitch, List.nil_append] at hbindings
  obtain ⟨s', template, sampling, samplers, hspec, htemplate, hsamplers, hsub, hrecorded, hwhole⟩ :=
    exists_samplers_of_plan hp hfamily
  obtain rfl : s = s' := Except.ok.inj (hfollows.spec.symm.trans hspec)
  obtain rfl : l.graph = template :=
    Except.ok.inj (hfollows.sound.graph.symm.trans htemplate)
  obtain ⟨first, hfirst, hstages⟩ :=
    hfollows.sound.exists_stages hspec hsamplers (hstart ▸ hbound) (hbindings ▸ hsub)
  have hkept : sampling.RecordedIn x.details := by
    rw [hrecord]
    exact ⟨hrecorded.seed, hrecorded.steps, hrecorded.guidance, hrecorded.denoise⟩
  have hfull (hm : r.mode = .txt2img ∨ r.mode = .animation) :
      (Sampling.window sampling.steps sampling.denoise).1 = 0 := by
    rw [hwhole hm]
    exact Sampling.window_whole _
  exact ⟨s, first, sampling, hspec, hfirst, hkept, hstages, hfull, Sampling.fits_window⟩

/-- A generation on WAN from an image that it keeps in part. -/
theorem compile_stages_generation :
    ∃ x, (generation { model := some "WAN: high.safetensors", image := some "40 a.png" }).compile
        sampleContext = .ok x ∧
      ∃ s first sampling, modeSpec .wan .img2img = .ok s ∧ s.initialSampler = some first ∧
        sampling.RecordedIn x.details ∧
        x.graph.Stages first s.sampler sampling
          (Sampling.window sampling.steps sampling.denoise) ∧
        (Mode.img2img = .txt2img ∨ Mode.img2img = .animation →
          (Sampling.window sampling.steps sampling.denoise).1 = 0) ∧
        ∀ steps denoise, Sampling.Fits steps (Sampling.window steps denoise) := by
  obtain ⟨x, hx⟩ := exists_compile_of_plan
    (generation { model := some "WAN: high.safetensors", image := some "40 a.png" })
    sampleContext none (by decide +kernel)
  exact ⟨x, hx, compile_stages hx (.inl (family_of_compile (by decide) hx))⟩

end JobRequest

end Renderflow
