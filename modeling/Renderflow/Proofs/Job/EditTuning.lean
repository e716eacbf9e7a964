import Renderflow.Proofs.Job.Tuning

/-!
# What the sampler of an edit on Flux gets

An edit on Flux takes its steps, its guidance and its size from settings of its own. The steps that
it asks for give way to those of the settings when they are zero, but a guidance that it asks for is
taken as it is, and so are its settings.
-/

namespace Renderflow

theorem isFirst_filter_getD {α : Type} {valid : α → Bool} (a : Option α) (b : α) :
    IsFirst valid [a, some b] ((a.filter valid).getD b) ∨
      (a.filter valid).getD b = b ∧ ∀ x, some x ∈ [a, some b] → valid x = false := by
  by_cases hb : valid b
  · left
    simpa using isFirst_getD hb [a]
  · cases ha : a.filter valid with
    | some x =>
      obtain ⟨rfl, hx⟩ := Option.filter_eq_some_iff.1 ha
      exact .inl (isFirst_cons hx _)
    | none =>
      refine .inr ⟨rfl, fun x hx => ?_⟩
      rcases List.mem_cons.1 hx with rfl | hx
      · simpa using Option.filter_eq_none_iff.1 ha x rfl
      · simpa [Option.some.inj (List.mem_singleton.1 hx)] using hb

theorem isFirst_getD_iff {α : Type} {valid : α → Bool} {a : Option α} {b : α} :
    IsFirst valid [a, some b] (a.getD b) ↔ valid (a.getD b) := by
  refine ⟨IsFirst.valid, fun h => ?_⟩
  cases a with
  | some a => exact isFirst_cons h _
  | none => exact (isFirst_cons h []).cons rfl

theorem ModeSpec.exists_mem_guidanceInputs (s : ModeSpec) : ∃ i, i ∈ s.guidanceInputs := by
  unfold guidanceInputs
  split
  · exact ⟨_, List.mem_singleton_self _⟩
  · exact ⟨_, List.mem_map_of_mem (List.mem_append_right _ (List.mem_singleton_self s.sampler))⟩

namespace JobRequest

variable {r : EditRequest} {c : JobContext} {reply : Option EnhancerReply} {x : Compiled}

/-- An edit on Flux binds its own sampling and the size of its settings. -/
theorem exists_fluxSampled_of_compile (h : (edit r).compile c reply = .ok x)
    (hfamily : x.details.family = some .flux) :
    ∃ s l start latent, x.SampledBy (edit r) c .flux s l start (r.fluxSampling c) ∧
      s.latent = some latent ∧
      x.graph.value? latent "mp_size_float" = some (.float c.settings.kontextMpSize) := by
  obtain ⟨family, s, l, start, p, hsampled⟩ := exists_sampledBy_of_compile h (by simp [mode])
  obtain rfl : family = .flux := Option.some.inj (hsampled.ofFamily.symm.trans hfamily)
  obtain rfl : p = r.fluxSampling c := by
    cases hsampled.yields
    rfl
  obtain ⟨plan, _, hp, hflux, hx, -⟩ := exists_fluxPlanned_of_compile h hfamily
  obtain ⟨-, latent, hlatent, hset⟩ := hflux.setsBatch hsampled.spec
  exact ⟨s, l, start, latent, hsampled, hlatent, (value?_of_set hp hx hset).1⟩

/-- The steps of an edit on Flux are the first ones of its request and of its settings that are
not zero, if any are. Its guidance is the first valid one exactly when that of the request, if it
asks for one, else that of the settings is valid. Its size is that of the settings. Where steps and
guidance are valid, every sampling input of the graph holds what it may. -/
theorem compile_edit_tuned (h : (edit r).compile c reply = .ok x)
    (hfamily : x.details.family = some .flux) :
    ∃ s latent steps guidance, modeSpec .flux .edit = .ok s ∧ s.latent = some latent ∧
      (∀ node ∈ s.samplers, x.graph.value? node "steps" = some (.ofUInt32 steps)) ∧
      (∀ i ∈ s.guidanceInputs, x.graph.value? i.1 i.2 = some (.float guidance)) ∧
      x.graph.value? latent "mp_size_float" = some (.float c.settings.kontextMpSize) ∧
      (IsFirst (fun n => 0 < n) [r.steps, some c.settings.kontextSteps] steps ∨
        steps = 0 ∧ ∀ n, some n ∈ [r.steps, some c.settings.kontextSteps] → n = 0) ∧
      guidance = r.guidance.getD c.settings.kontextGuidance ∧
      (IsFirst Sampling.guides [r.guidance, some c.settings.kontextGuidance] guidance ↔
        Sampling.guides guidance) ∧
      (0 < steps → Sampling.guides guidance → x.graph.Samplable) := by
  obtain ⟨s, l, start, latent, hsampled, hlatent, hsize⟩ := exists_fluxSampled_of_compile h hfamily
  refine ⟨s, latent, (r.fluxSampling c).steps, (r.fluxSampling c).guidance, hsampled.spec, hlatent,
    fun node hnode => hsampled.value?_steps hnode, fun i hi => hsampled.value?_guidance hi, hsize,
    ?_, rfl, isFirst_getD_iff, samplable_of_compile h hsampled⟩
  have hzero : ∀ n : UInt32, decide (0 < n) = false → n = 0 := fun n hn => by
    simpa using hn
  refine (isFirst_filter_getD r.steps c.settings.kontextSteps).imp_right fun hnone => ⟨?_, ?_⟩
  · show (r.steps.filter fun n => 0 < n).getD c.settings.kontextSteps = 0
    rw [hnone.1]
    exact hzero _ (hnone.2 _ (by simp))
  · exact fun n hn => hzero n (hnone.2 n hn)

/-- An edit of one image on Flux. -/
def sampleEdit (steps : Option UInt32) (guidance : Option Float) : EditRequest :=
  { family := some .flux, images := ["a.png"], steps, guidance }

/-- An edit that asks for no steps has those of the settings. The guidance below zero that it asks
for is bound, though that of the settings is valid. -/
theorem compile_edit_tuned_below_zero :
    ∃ x, (edit (sampleEdit (some 0) (some (-1.0)))).compile sampleContext = .ok x ∧
      ∃ s steps, modeSpec .flux .edit = .ok s ∧
        (∀ node ∈ s.samplers, x.graph.value? node "steps" = some (.ofUInt32 steps)) ∧
        IsFirst (fun n => 0 < n) [some 0, some 32] steps ∧
        (∀ i ∈ s.guidanceInputs, x.graph.value? i.1 i.2 = some (.float (-1.0))) ∧
        ¬ IsFirst Sampling.guides [some (-1.0), some 3.0] (-1.0) := by
  obtain ⟨x, hx⟩ := exists_compile_of_plan (edit (sampleEdit (some 0) (some (-1.0))))
    sampleContext none (by decide +kernel)
  obtain ⟨s, latent, steps, guidance, hspec, -, hsteps, hguidance, -, hfirst, rfl, hiff, -⟩ :=
    compile_edit_tuned hx (family_of_compile (by decide) hx)
  refine ⟨x, hx, s, steps, hspec, hsteps, hfirst.resolve_right fun hnone => ?_, hguidance,
    fun hvalid => ?_⟩
  · exact absurd (hnone.2 32 (by simp [sampleContext])) (by decide)
  · exact absurd (hiff.1 hvalid) (by decide)

/-- What holds of the graph of every edit on Flux. -/
def ForFluxEdits (P : Graph → ModeSpec → Prop) : Prop :=
  ∀ (r : EditRequest) (c : JobContext) (x : Compiled) (s : ModeSpec),
    (edit r).compile c = .ok x → x.details.family = some .flux → modeSpec .flux .edit = .ok s →
    P x.graph s

/-- What holds of the graph of every edit on Flux holds of what one binds. -/
theorem ForFluxEdits.exists_of_plan {P : Graph → ModeSpec → Prop} (h : ForFluxEdits P)
    (r : EditRequest) (c : JobContext) (hplan : ((edit r).plan c none).isOk)
    (hflux : (edit r).family c = .ok .flux) :
    ∃ g s latent, P g s ∧ s.latent = some latent ∧
      g.value? s.sampler "steps" = some (.ofUInt32 (r.fluxSampling c).steps) ∧
      (∀ i ∈ s.guidanceInputs, g.value? i.1 i.2 = some (.float (r.fluxSampling c).guidance)) ∧
      g.value? latent "mp_size_float" = some (.float c.settings.kontextMpSize) := by
  obtain ⟨x, hx⟩ := exists_compile_of_plan (edit r) c none hplan
  have hfamily := family_of_compile hflux hx
  obtain ⟨s, l, start, latent, hsampled, hlatent, hsize⟩ := exists_fluxSampled_of_compile hx hfamily
  exact ⟨x.graph, s, latent, h r c x s hx hfamily hsampled.spec, hlatent,
    hsampled.value?_steps (by simp [ModeSpec.samplers]), fun i hi => hsampled.value?_guidance hi,
    hsize⟩

/-- Not every edit on Flux has steps to sample, a guidance of zero at least, and a size within
eight megapixels. -/
theorem not_forall_edit_tuned :
    (¬ ForFluxEdits fun g s => ∃ steps, g.value? s.sampler "steps" = some (.ofUInt32 steps) ∧
      0 < steps) ∧
    (¬ ForFluxEdits fun g s => ∀ i ∈ s.guidanceInputs, ∃ guidance,
      g.value? i.1 i.2 = some (.float guidance) ∧ Sampling.guides guidance) ∧
    ¬ ForFluxEdits fun g s => ∀ latent, s.latent = some latent → ∃ size,
      g.value? latent "mp_size_float" = some (.float size) ∧ 0.1 ≤ size ∧ size ≤ 8.0 := by
  refine ⟨fun hsteps => ?_, fun hguidance => ?_, fun hsize => ?_⟩
  · obtain ⟨g, s, -, ⟨steps, hvalue, hvalid⟩, -, hbound, -⟩ := hsteps.exists_of_plan
      (sampleEdit none none)
      { sampleContext with settings := { sampleContext.settings with kontextSteps := 0 } }
      (by decide) (by decide)
    have hsamples := (Value.samples_ofUInt32 hvalid).1
    rw [← Option.some.inj (hbound.symm.trans hvalue)] at hsamples
    exact absurd hsamples (by decide)
  · obtain ⟨g, s, -, hholds, -, -, hbound, -⟩ := hguidance.exists_of_plan
      (sampleEdit none (some (-1.0))) sampleContext (by decide) (by decide)
    obtain ⟨i, hi⟩ := s.exists_mem_guidanceInputs
    obtain ⟨guidance, hvalue, hvalid⟩ := hholds i hi
    rw [← Value.float.inj (Option.some.inj ((hbound i hi).symm.trans hvalue))] at hvalid
    exact absurd hvalid (by decide)
  · obtain ⟨g, s, latent, hholds, hlatent, -, -, hbound⟩ := hsize.exists_of_plan
      (sampleEdit none none)
      { sampleContext with settings := { sampleContext.settings with kontextMpSize := 20.0 } }
      (by decide) (by decide)
    obtain ⟨size, hvalue, -, hmost⟩ := hholds latent hlatent
    rw [← Value.float.inj (Option.some.inj (hbound.symm.trans hvalue))] at hmost
    exact absurd hmost (by decide)

end JobRequest

end Renderflow
