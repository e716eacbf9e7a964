import Renderflow.Proofs.Job.Context
import Renderflow.Proofs.Job.Family
import Renderflow.Proofs.Job.Notes
import Renderflow.Proofs.Job.Samplers
import Renderflow.Proofs.Job.Scene

/-!
# What every sampler gets

The steps and the guidance of a job are the first valid ones of the request, the settings of its
family and the fallback of the family. With the sizes of batches and videos, they leave no sampler
of its graph without steps, with a guidance below zero or beyond every number, or with nothing to
sample.
-/

namespace Renderflow

/-! ## The first valid value -/

/-- A value is valid, and none of the candidates before it is. -/
def IsFirst {α : Type} (valid : α → Bool) (candidates : List (Option α)) (a : α) : Prop :=
  ∃ before after, candidates = before ++ some a :: after ∧ valid a ∧
    ∀ b, some b ∈ before → valid b = false

theorem IsFirst.valid {α : Type} {valid : α → Bool} {candidates : List (Option α)} {a : α}
    (h : IsFirst valid candidates a) : valid a := by
  obtain ⟨before, after, -, hvalid, -⟩ := h
  exact hvalid

theorem isFirst_cons {α : Type} {valid : α → Bool} {a : α} (h : valid a)
    (candidates : List (Option α)) : IsFirst valid (some a :: candidates) a :=
  ⟨[], candidates, rfl, h, by simp⟩

/-- A candidate that is not valid gives way to the next. -/
theorem IsFirst.cons {α : Type} {valid : α → Bool} {candidate : Option α}
    {candidates : List (Option α)} {a : α} (h : IsFirst valid candidates a)
    (hcandidate : candidate.filter valid = none) : IsFirst valid (candidate :: candidates) a := by
  obtain ⟨before, after, rfl, hvalid, hbefore⟩ := h
  refine ⟨candidate :: before, after, rfl, hvalid, fun b hb => ?_⟩
  rcases List.mem_cons.1 hb with rfl | hb
  · simpa using Option.filter_eq_none_iff.1 hcandidate b rfl
  · exact hbefore b hb

theorem isFirst_getD {α : Type} {valid : α → Bool} {fallback : α} (h : valid fallback)
    (candidates : List (Option α)) :
    IsFirst valid (candidates ++ [some fallback])
      ((candidates.findSome? fun a => a.filter valid).getD fallback) := by
  induction candidates with
  | nil => exact isFirst_cons h []
  | cons candidate candidates ih =>
    rw [List.findSome?_cons, List.cons_append]
    cases hcandidate : candidate.filter valid with
    | some a =>
      obtain ⟨rfl, ha⟩ := Option.filter_eq_some_iff.1 hcandidate
      exact isFirst_cons ha _
    | none => exact ih.cons hcandidate

theorem isFirst_or_getD {α : Type} {valid : α → Bool} {a b : Option α} {fallback : α}
    (h : valid fallback) : IsFirst valid [a, b, some fallback]
      (((a.filter valid).or (b.filter valid)).getD fallback) := by
  have hor : (a.filter valid).or (b.filter valid) =
      [a, b].findSome? fun candidate => candidate.filter valid := by
    cases ha : a.filter valid <;> cases hb : b.filter valid <;> simp [ha, hb]
  rw [hor]
  exact isFirst_getD h [a, b]

namespace Sampling

/-- A guidance that a sampler can take is a number and not below zero. -/
def guides (g : Float) : Bool :=
  Decimal.isFinite g && 0.0 ≤ g

variable (s : Settings) (family : Family)

theorem isFirst_resolveSteps (requested : Option UInt32) :
    IsFirst (fun n => 0 < n) [requested, (s.family family).steps, some family.spec.stepsFallback]
      (resolveSteps requested s family) :=
  isFirst_or_getD (by cases family <;> decide)

theorem isFirst_resolveGuidance (requested : Option Float) :
    IsFirst guides [requested, (s.family family).guidance, some family.spec.guidanceFallback]
      (resolveGuidance requested s family) :=
  isFirst_or_getD (by cases family <;> decide)

end Sampling

theorem AnimationRequest.isFirst_frames (r : AnimationRequest) (s : Settings) :
    IsFirst (fun n => 0 < n)
      [r.frames, r.source.animationFrames, s.wanAnimation.duration, some 33]
      (r.scene s).frames :=
  isFirst_getD (by decide) [r.frames, r.source.animationFrames, s.wanAnimation.duration]

theorem one_le_batchSize (requested : Option UInt32) (s : Settings) :
    1 ≤ batchSize requested s := by
  rw [UInt32.le_iff_toNat_le, batchSize, UInt32.toNat_max]
  exact Nat.le_max_right _ _

/-! ## What a request asks for -/

namespace JobRequest

/-- The steps that a request asks for. An animation asks for none. -/
def requestedSteps : JobRequest → Option UInt32
  | generation r => r.steps
  | variation r => r.steps
  | edit r => r.steps
  | upscale _ | animation _ => none

/-- The guidance that a request asks for. An animation asks for none. -/
def requestedGuidance : JobRequest → Option Float
  | generation r => r.guidance
  | variation r => r.guidance
  | edit r => r.guidance
  | upscale _ | animation _ => none

variable {r : JobRequest} {c : JobContext} {reply : Option EnhancerReply} {family : Family}

/-- Every request but an edit on Flux takes its steps and its guidance from the same sources. -/
theorem Yields.resolved {p : Sampling} (h : r.Yields c family p)
    (hflux : ¬ (r.mode = .edit ∧ family = .flux)) :
    p.steps = Sampling.resolveSteps r.requestedSteps c.settings family ∧
      p.guidance = Sampling.resolveGuidance r.requestedGuidance c.settings family := by
  cases h with
  | fluxEdit r => exact absurd ⟨rfl, rfl⟩ hflux
  | generation r start | variation r | qwenEdit r | animation r => exact ⟨rfl, rfl⟩

end JobRequest

/-! ## Sampling inputs -/

/-- The classes of the nodes that tell how much is sampled, each with an input that does. -/
def samplingInputs : List (String × String) :=
  [("KSampler", "steps"), ("KSamplerAdvanced", "steps"), ("KSampler", "cfg"),
    ("KSamplerAdvanced", "cfg"), ("FluxGuidance", "guidance"),
    ("BobsLatentNodeAdvanced", "batch_size"), ("WanImageToVideo", "batch_size")]

/-- What a sampling input may hold: a whole number of steps or of images that is not zero, or a
guidance. -/
def Value.samples (input : String) (v : Value) : Bool :=
  match input with
  | "steps" | "batch_size" => v.whole?.any (0 < ·)
  | _ => v.asFloat?.any Sampling.guides

/-- Every sampling input of a graph holds what it may. -/
def Graph.Samplable (g : Graph) : Prop :=
  ∀ node classType title, g.label? node = some (classType, title) →
    ∀ input, (classType, input) ∈ samplingInputs →
      ∃ v, g.value? node input = some v ∧ v.samples input

/-- The sampling inputs that a job sets. -/
def ModeSpec.setInputs (s : ModeSpec) (family : Family) : List (String × String) :=
  s.samplers.map (·, "steps") ++ s.guidanceInputs ++
    if s.mode = .txt2img ∨ s.mode = .edit ∧ family = .flux then
      s.latent.toList.map (·, "batch_size")
    else []

theorem loaderOutputs_of_mem_samplingInputs :
    ∀ i ∈ samplingInputs, loaderOutputs i.1 = [] := by
  decide

section

attribute [local instance] Text.decideEq

/-- Checks that every sampling input of what a job starts from is set by a job of the mode, or
holds what it may and is kept. -/
def ModeSpec.isSamplable (s : ModeSpec) (family : Family) (images : Nat) : Bool :=
  (s.layout? family images).any fun l => l.all fun e => samplingInputs.all fun i =>
    i.1 ≠ e.2.classType || decide ((e.1, i.2) ∈ s.setInputs family) ||
      ((l.value? e.1 i.2).any (Value.samples i.2) &&
        (s.footprint family { images }).all fun f => !decide (f.Covers e.1 i.2))

theorem isSamplable_of_mem_modes (family : Family) :
    ∀ s ∈ family.spec.modes, s.isSamplable family 1 := by
  cases family <;> decide

theorem edit_isSamplable : ∀ images ∈ [2, 3, 4], Catalog.Flux.edit.isSamplable .flux images := by
  decide

end

theorem Value.samples_ofUInt32 {n : UInt32} (h : 0 < n) :
    (ofUInt32 n).samples "steps" ∧ (ofUInt32 n).samples "batch_size" := by
  have hpos : 0 < n.toNat := UInt32.lt_iff_toNat_lt.1 h
  simp [samples, Graph.whole?_ofUInt32, reportedWord, hpos]

theorem Value.samples_float {y : Float} (h : Sampling.guides y) :
    (float y).samples "cfg" ∧ (float y).samples "guidance" := by
  simp [samples, asFloat?, h]

theorem ModeSpec.input_of_mem_guidanceInputs {s : ModeSpec} {node input : String}
    (h : (node, input) ∈ s.guidanceInputs) : input = "cfg" ∨ input = "guidance" := by
  unfold guidanceInputs at h
  split at h
  · exact .inr (Prod.mk.inj (List.mem_singleton.1 h)).2
  · obtain ⟨_, -, hi⟩ := List.mem_map.1 h
    exact .inl (Prod.mk.inj hi).2.symm

theorem ModeSpec.require_eq_ok {s : ModeSpec} {role node : String} {found : Option String}
    (h : s.require role found = .ok node) : found = some node := by
  unfold require at h
  split at h
  · exact congrArg some (Except.ok.inj h)
  · cases h

/-- The bindings of a latent image set its size and that of its batch. -/
theorem ModeSpec.mem_latentBindings {s : ModeSpec} {family : Family} {ratio : String}
    {mpSize : Float} {batch : UInt32} {bs : List Binding}
    (h : s.latentBindings family ratio mpSize batch = .ok bs) :
    ∃ latent, s.latent = some latent ∧ .set latent "mp_size_float" (.float mpSize) ∈ bs ∧
      .set latent "batch_size" (.ofUInt32 batch) ∈ bs := by
  obtain ⟨latent, hlatent, hbs⟩ := bind_eq_ok_iff.1 h
  obtain rfl := Except.ok.inj hbs
  exact ⟨latent, require_eq_ok hlatent, by simp, by simp⟩

/-- A batch is never empty. -/
theorem GenerationRequest.one_le_of_start {r : GenerationRequest} {c : JobContext} {ratio : String}
    {mpSize : Float} {batch : UInt32} (h : r.start c = .ok (.size ratio mpSize batch)) :
    1 ≤ batch := by
  unfold start at h
  split at h
  · obtain ⟨spec, -, hstart⟩ := bind_eq_ok_iff.1 h
    cases hstart
  · obtain ⟨_, -, hstart⟩ := bind_eq_ok_iff.1 h
    cases hstart
    exact one_le_batchSize r.batchSize c.settings

/-- A plan sets the size of a batch that is not empty. -/
def Plan.SetsBatch (p : Plan) (s : ModeSpec) : Prop :=
  ∃ latent batch, s.latent = some latent ∧
    .set latent "batch_size" (.ofUInt32 batch) ∈ p.bindings ∧ 1 ≤ batch

/-- A generation from its prompt alone sets its batch. -/
theorem GenerationRequest.Planned.setsBatch {r : GenerationRequest} {c : JobContext} {p : Plan}
    (h : r.Planned c p) (hmode : (JobRequest.generation r).mode = .txt2img) {family : Family}
    (hfamily : p.details.family = some family) {s : ModeSpec}
    (hspec : modeSpec family .txt2img = .ok s) : p.SetsBatch s := by
  obtain @⟨m, start, s', _, _, _, _, _, _, source, _, hstart, hspec', -, -, -, -, -, -,
    hsource⟩ := h
  have hmode' : start.mode = .txt2img := ((r.start_delivers c).value start hstart).trans hmode
  obtain rfl : m.family = family := by
    cases start <;> exact Option.some.inj hfamily
  rw [hmode'] at hspec'
  obtain rfl : s = s' := Except.ok.inj (hspec.symm.trans hspec')
  cases start with
  | image => cases hmode'
  | size ratio mpSize batch =>
    obtain ⟨latent, hlatent, -, hset⟩ := ModeSpec.mem_latentBindings hsource
    exact ⟨latent, batch, hlatent, by simp [hset], one_le_of_start hstart⟩

/-- An edit on Flux sets its batch, and the size that is configured for it. -/
theorem EditRequest.FluxPlanned.setsBatch {r : EditRequest} {c : JobContext} {p : Plan}
    (h : r.FluxPlanned c p) {s : ModeSpec} (hspec : modeSpec .flux .edit = .ok s) :
    p.SetsBatch s ∧ ∃ latent, s.latent = some latent ∧
      .set latent "mp_size_float" (.float c.settings.kontextMpSize) ∈ p.bindings := by
  obtain @⟨s', _, _, _, _, _, _, _, _, hspec', -, -, -, -, -, -, -, -, hsize⟩ := h
  obtain rfl : s = s' := Except.ok.inj (hspec.symm.trans hspec')
  obtain ⟨latent, hlatent, hmp, hset⟩ := ModeSpec.mem_latentBindings hsize
  exact ⟨⟨latent, 1, hlatent, by simp [hset], by decide⟩, latent, hlatent, by simp [hmp]⟩

namespace JobRequest

variable {r : JobRequest} {c : JobContext} {reply : Option EnhancerReply} {x : Compiled}

/-- A generation from its prompt alone and an edit on Flux bind the size of a batch that is not
empty. -/
theorem exists_batch_of_compile (h : r.compile c reply = .ok x) {family : Family}
    (hmode : r.mode = .txt2img ∨ r.mode = .edit ∧ family = .flux)
    (hfamily : x.details.family = some family) {s : ModeSpec}
    (hspec : modeSpec family r.mode = .ok s) :
    ∃ latent batch, s.latent = some latent ∧
      x.graph.value? latent "batch_size" = some (.ofUInt32 batch) ∧ 1 ≤ batch := by
  obtain ⟨p, _, _, _, _, _, hp, -, hx, hrecord⟩ := exists_plan_of_compile h
  have hplanned : p.details.family = some family := by rw [← hfamily, hrecord]
  have hset : p.SetsBatch s := by
    rcases hmode with htxt | ⟨hedit, rfl⟩
    · rw [htxt] at hspec
      cases r with
      | generation r =>
        exact (GenerationRequest.plan_eq_ok_iff.1 hp).setsBatch htxt hplanned hspec
      | variation r => cases hr : r.strength <;> simp [mode, hr, VariationStrength.mode] at htxt
      | upscale r | edit r | animation r => cases htxt
    · obtain ⟨r, rfl, hflux⟩ := exists_fluxPlanned hp hedit hplanned
      exact (hflux.setsBatch hspec).1
  obtain ⟨latent, batch, hlatent, hmem, hpos⟩ := hset
  exact ⟨latent, batch, hlatent, (value?_of_set hp hx hmem).1, hpos⟩

/-- An animation binds its length, which is the first positive one, and sides of 64 at least. -/
theorem exists_video_of_compile {a : AnimationRequest}
    (h : (animation a).compile c reply = .ok x) {s : ModeSpec}
    (hspec : modeSpec .wan .animation = .ok s) :
    ∃ video frames width height, s.latent = some video ∧
      x.graph.value? video "length" = some (.ofUInt32 frames) ∧
      IsFirst (fun n => 0 < n)
        [a.frames, a.source.animationFrames, c.settings.wanAnimation.duration, some 33] frames ∧
      x.graph.value? video "width" = some (.ofUInt32 width) ∧ 64 ≤ width ∧
      x.graph.value? video "height" = some (.ofUInt32 height) ∧ 64 ≤ height := by
  rw [compile_eq] at h
  obtain ⟨p, hp, hx⟩ := bind_eq_ok_iff.1 h
  have hset := @value?_of_set _ _ _ _ hp _ hx
  obtain @⟨s', video, _, _, _, _, _, hspec', hvideo, -⟩ := AnimationRequest.plan_eq_ok_iff.1 hp
  obtain rfl : s = s' := Except.ok.inj (hspec.symm.trans hspec')
  have hlatent := ModeSpec.require_eq_ok hvideo
  obtain ⟨hwidth, hheight⟩ := a.le_size c.settings
  refine ⟨video, (a.scene c.settings).frames, (a.scene c.settings).width,
    (a.scene c.settings).height, hlatent, (hset ?_).1, a.isFirst_frames c.settings,
    (hset ?_).1, hwidth, (hset ?_).1, hheight⟩
  all_goals simp [AnimationRequest.Scene.bindings]

/-- A job sets its sampling inputs to what they may hold. -/
theorem samples_of_mem_setInputs {family : Family} {s : ModeSpec} {l start : Layout} {p : Sampling}
    (h : r.compile c reply = .ok x) (hsampled : x.SampledBy r c family s l start p)
    (hsteps : 0 < p.steps) (hguidance : Sampling.guides p.guidance)
    {node input : String} (hset : (node, input) ∈ s.setInputs family) :
    ∃ v, x.graph.value? node input = some v ∧ v.samples input := by
  have hmode : s.mode = r.mode := (mem_modes_of_modeSpec hsampled.spec).2
  simp only [ModeSpec.setInputs, List.mem_append, or_assoc] at hset
  rcases hset with hset | hset | hset
  · obtain ⟨_, hnode, heq⟩ := List.mem_map.1 hset
    obtain ⟨rfl, rfl⟩ := Prod.mk.inj heq
    exact ⟨_, hsampled.value?_steps hnode, (Value.samples_ofUInt32 hsteps).1⟩
  · have hvalue := hsampled.value?_guidance hset
    rcases ModeSpec.input_of_mem_guidanceInputs hset with rfl | rfl
    · exact ⟨_, hvalue, (Value.samples_float hguidance).1⟩
    · exact ⟨_, hvalue, (Value.samples_float hguidance).2⟩
  · split at hset
    · next hsized =>
      obtain ⟨_, hnode, heq⟩ := List.mem_map.1 hset
      obtain ⟨rfl, rfl⟩ := Prod.mk.inj heq
      obtain ⟨latent, batch, hlatent, hvalue, hbatch⟩ :=
        exists_batch_of_compile h (hmode ▸ hsized) hsampled.ofFamily hsampled.spec
      obtain rfl := Option.some.inj (hlatent.symm.trans (Option.mem_toList.1 hnode))
      exact ⟨_, hvalue, (Value.samples_ofUInt32 hbatch).2⟩
    · simp at hset

/-- A compiled job shows as many images as its mode admits. -/
theorem admits_of_compile (h : r.compile c reply = .ok x) {family : Family}
    (hfamily : x.details.family = some family) : r.mode.admits family (r.extent c).images := by
  obtain ⟨p, _, _, _, _, _, hp, -, -, hrecord⟩ := exists_plan_of_compile h
  exact admits_of_plan hp (by rw [← hfamily, hrecord])

/-- Every sampling input of a compiled job holds what it may. -/
theorem samplable_of_compile {family : Family} {s : ModeSpec} {l start : Layout} {p : Sampling}
    (h : r.compile c reply = .ok x) (hsampled : x.SampledBy r c family s l start p)
    (hsteps : 0 < p.steps) (hguidance : Sampling.guides p.guidance) :
    x.graph.Samplable := by
  intro node classType title hlabel input hinput
  have hclass : loaderOutputs classType = [] := loaderOutputs_of_mem_samplingInputs _ hinput
  obtain ⟨title', hfirst⟩ := label?_start_of_compile h hsampled.ofFamily hsampled.spec
    hsampled.sound hclass hlabel
  rw [Layout.label?_graph] at hfirst
  obtain ⟨n, hn, hlabeled⟩ := Option.map_eq_some_iff.1 hfirst
  obtain ⟨rfl, -⟩ := Prod.mk.inj hlabeled
  have hcheck := forall_admitted (P := fun s family images => s.isSamplable family images)
    isSamplable_of_mem_modes edit_isSamplable hsampled.spec (admits_of_compile h hsampled.ofFamily)
  simp only [ModeSpec.isSamplable, hsampled.sound.start, Option.any_some, List.all_eq_true,
    Bool.or_eq_true, Bool.and_eq_true, decide_eq_true_eq, Option.any_eq_true,
    Bool.not_eq_true', decide_eq_false_iff_not] at hcheck
  -- the job sets the input, or it keeps what the layout that it starts from holds
  rcases hcheck (node, n) (Table.mem_of_last? hn) _ hinput with (hother | hset) | ⟨hvalue, hkept⟩
  · exact absurd rfl hother
  · exact samples_of_mem_setInputs h hsampled hsteps hguidance hset
  · obtain ⟨v, hv, hsamples⟩ := hvalue
    obtain ⟨bs, hbound, -⟩ := hsampled.exists_bound
    refine ⟨v, ?_, hsamples⟩
    rw [hbound.value? node input, Layout.value?_graph, hv]
    intro f hf
    exact hkept f ((s.footprint_sublist family (r.extent c)).subset hf)

/-- The steps and the guidance of a compiled job are the first valid ones of its sources, and every
sampling input of its graph holds what it may. -/
theorem compile_tuned (h : r.compile c reply = .ok x) (hmode : r.mode ≠ .upscale)
    (hflux : ¬ (r.mode = .edit ∧ x.details.family = some .flux)) :
    ∃ family s steps guidance, x.details.family = some family ∧
      modeSpec family r.mode = .ok s ∧
      IsFirst (fun n => 0 < n)
        [r.requestedSteps, (c.settings.family family).steps, some family.spec.stepsFallback]
        steps ∧
      IsFirst Sampling.guides
        [r.requestedGuidance, (c.settings.family family).guidance,
          some family.spec.guidanceFallback] guidance ∧
      (∀ node ∈ s.samplers, x.graph.value? node "steps" = some (.ofUInt32 steps)) ∧
      (∀ i ∈ s.guidanceInputs, x.graph.value? i.1 i.2 = some (.float guidance)) ∧
      (r.mode = .txt2img → ∃ latent batch, s.latent = some latent ∧
        x.graph.value? latent "batch_size" = some (.ofUInt32 batch) ∧ 1 ≤ batch) ∧
      (∀ a, r = animation a → ∃ video frames width height, s.latent = some video ∧
        x.graph.value? video "length" = some (.ofUInt32 frames) ∧
        IsFirst (fun n => 0 < n)
          [a.frames, a.source.animationFrames, c.settings.wanAnimation.duration, some 33] frames ∧
        x.graph.value? video "width" = some (.ofUInt32 width) ∧ 64 ≤ width ∧
        x.graph.value? video "height" = some (.ofUInt32 height) ∧ 64 ≤ height) ∧
      x.graph.Samplable := by
  obtain ⟨family, s, l, start, p, hsampled⟩ := exists_sampledBy_of_compile h hmode
  have hother : ¬ (r.mode = .edit ∧ family = .flux) := by
    rintro ⟨hedit, rfl⟩
    exact hflux ⟨hedit, hsampled.ofFamily⟩
  obtain ⟨hsteps, hguidance⟩ := hsampled.yields.resolved hother
  refine ⟨family, s, p.steps, p.guidance, hsampled.ofFamily, hsampled.spec, ?_, ?_,
    fun node hnode => hsampled.value?_steps hnode, fun i hi => hsampled.value?_guidance hi,
    fun htxt => exists_batch_of_compile h (.inl htxt) hsampled.ofFamily hsampled.spec, ?_,
    samplable_of_compile h hsampled ?_ ?_⟩
  · exact hsteps ▸ Sampling.isFirst_resolveSteps c.settings family r.requestedSteps
  · exact hguidance ▸ Sampling.isFirst_resolveGuidance c.settings family r.requestedGuidance
  · rintro a rfl
    have hwan : x.details.family = some .wan := family_of_compile rfl h
    obtain rfl : family = .wan := Option.some.inj (hsampled.ofFamily.symm.trans hwan)
    exact exists_video_of_compile h hsampled.spec
  · exact of_decide_eq_true (hsteps ▸ Sampling.isSteps_resolveSteps c.settings family _)
  · exact hguidance ▸ Sampling.isGuidance_resolveGuidance c.settings family r.requestedGuidance

/-- A generation that asks for no steps, for a guidance below zero and for an empty batch. -/
def emptyRequest : JobRequest :=
  generation { steps := some 0, guidance := some (-1.0), batchSize := some 0 }

/-- The steps and the guidance of the empty request are those of its family, and there is
something to sample. -/
theorem compile_tuned_empty :
    ∃ x, emptyRequest.compile sampleContext = .ok x ∧ x.details.family = some .sdxl ∧
      ∃ s steps guidance latent batch, modeSpec .sdxl .txt2img = .ok s ∧
        IsFirst (fun n => 0 < n) [some 0, none, some 26] steps ∧
        IsFirst Sampling.guides [some (-1.0), none, some 7.0] guidance ∧
        (∀ node ∈ s.samplers, x.graph.value? node "steps" = some (.ofUInt32 steps)) ∧
        (∀ i ∈ s.guidanceInputs, x.graph.value? i.1 i.2 = some (.float guidance)) ∧
        s.latent = some latent ∧
        x.graph.value? latent "batch_size" = some (.ofUInt32 batch) ∧ 1 ≤ batch ∧
        x.graph.Samplable := by
  obtain ⟨x, hx⟩ := exists_compile_of_plan emptyRequest sampleContext none (by decide)
  have hsdxl : x.details.family = some .sdxl := family_of_compile (by decide) hx
  obtain ⟨family, s, steps, guidance, hfamily, hspec, hsteps, hguidance, hsampled, hguided, hbatch,
    -, hsamplable⟩ := compile_tuned hx (by decide) fun hflux => absurd hflux.1 (by decide)
  obtain rfl : family = .sdxl := Option.some.inj (hfamily.symm.trans hsdxl)
  obtain ⟨latent, batch, hlatent, hbound, hpos⟩ := hbatch rfl
  exact ⟨x, hx, hsdxl, s, steps, guidance, latent, batch, hspec, hsteps, hguidance, hsampled,
    hguided, hlatent, hbound, hpos, hsamplable⟩

end JobRequest

end Renderflow
