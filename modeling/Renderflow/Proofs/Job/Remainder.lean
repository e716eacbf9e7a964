import Renderflow.Proofs.Decimal.Hundredths
import Renderflow.Proofs.Job.Context
import Renderflow.Proofs.Job.Stages

/-!
# The steps that a partial denoise leaves

A job on WAN that keeps an image in part skips the steps that its denoise leaves out. The denoise
is a whole number of hundredths, and the first stage starts at a whole step that is nearest to what
they leave out: at an earlier step than the last one if the denoise comes to more than half a step.
The second stage stops where its template does.
-/

namespace Renderflow

namespace Sampling

open Decimal

/-- The first stage starts at a step that is nearest to the part of the steps left out. -/
theorem window_near {steps : UInt32} (hsteps : steps ≠ 0) {k : Nat} (hk : k ≤ 100) :
    100 * (window steps (hundredths k)).1.toNat ≤ (100 - k) * steps.toNat + 50 ∧
      (100 - k) * steps.toNat ≤ 100 * (window steps (hundredths k)).1.toNat + 50 := by
  rcases Nat.eq_or_lt_of_le hk with rfl | hlt
  · have hone : hundredths 100 = 1.0 := by decide +kernel
    rw [hone, window_whole]
    simp
  · have hne : steps.toNat ≠ 0 := fun h => hsteps (UInt32.toNat_inj.1 h)
    obtain ⟨m, j, hnormal, hlow, hhigh, hbelow, habove⟩ := exists_normal_rest hlt
    obtain ⟨q, hround, hunder, hover⟩ := exists_round_mul hne steps.toNat_lt (by omega) hnormal
      hlow hhigh hbelow habove
    have hq : q ≤ steps.toNat := by
      have hpart := Nat.mul_le_mul_right steps.toNat (show 100 - k ≤ 100 by omega)
      omega
    have hword : (Float.ofNat q).toUInt32.toNat = q :=
      toUInt32_ofNat (hq.trans_lt steps.toNat_lt)
    have hstart : (window steps (hundredths k)).1 = (Float.ofNat q).toUInt32 := by
      show min (round (Float.ofNat steps.toNat * (1.0 - clamp 0.0 1.0 (hundredths k)))).toUInt32
        steps = _
      rw [clamp_hundredths k hk, hround]
      exact if_pos (UInt32.le_iff_toNat_le.2 (hword.symm ▸ hq))
    rw [hstart, hword]
    exact ⟨hunder, hover⟩

/-- Half a step that is left is skipped with the rest. -/
theorem window_of_half : ∀ k ≤ 50, ∀ n ≤ 50, k * n = 50 →
    (window (UInt32.ofNat n) (hundredths k)).1.toNat = n := by
  decide +kernel

/-- The first stage has a step to run exactly if more than half a step is left. -/
theorem window_start_lt_iff {steps : UInt32} (hsteps : steps ≠ 0) {k : Nat} (hk : k ≤ 100) :
    (window steps (hundredths k)).1 < steps ↔ 50 < k * steps.toNat := by
  obtain ⟨hunder, hover⟩ := window_near hsteps hk
  have hwhole : (100 - k) * steps.toNat + k * steps.toNat = 100 * steps.toNat := by
    rw [← Nat.add_mul]
    congr 1
    omega
  rw [UInt32.lt_iff_toNat_lt]
  -- the bounds leave both neighbours of a half open, so that the doubles of a half are evaluated
  rcases Nat.lt_trichotomy (k * steps.toNat) 50 with hless | hhalf | hmore
  · omega
  · have hne : steps.toNat ≠ 0 := fun h => hsteps (UInt32.toNat_inj.1 h)
    have hsmall := Nat.le_of_dvd (by norm_num) (Dvd.intro_left k hhalf)
    have hpart := Nat.le_of_dvd (by norm_num) (Dvd.intro steps.toNat hhalf)
    have hstart := window_of_half k hpart steps.toNat hsmall hhalf
    rw [UInt32.ofNat_toNat] at hstart
    omega
  · omega

end Sampling

/-! ## The denoise of a job -/

open Decimal (hundredths)

theorem Image.denoise_eq_hundredths {strength : UInt8} (h : strength ≤ 100) :
    Image.denoise strength = hundredths (100 - strength.toNat) := by
  have hround := Decimal.round_rest (UInt8.le_iff_toNat_le.1 h)
  simp only [hundredths] at hround
  rw [Image.denoise, hround]
  exact Decimal.clamp_hundredths _ (Nat.sub_le 100 _)

/-- A job that keeps an image in part denoises a whole number of hundredths of it. -/
def Mode.isPartial (m : Mode) : Bool :=
  m matches .img2img | .weakVariation | .strongVariation

theorem Image.Spec.strength_le_of_parse {text : String} {spec : Image.Spec}
    (h : Image.Spec.parse text = .ok spec) : spec.strength ≤ 100 := by
  unfold Image.Spec.parse at h
  split at h
  · cases h
  · split at h
    · cases h
    · next strength hstrength =>
      simp only at h
      split at h
      · cases h
      · cases h
        exact of_decide_eq_true (Option.filter_eq_some_iff.1 hstrength).2

theorem GenerationRequest.strength_le_of_start {r : GenerationRequest} {c : JobContext}
    {source : Image.Spec} (h : r.start c = .ok (.image source)) : source.strength ≤ 100 := by
  unfold start at h
  split at h
  · obtain ⟨spec, hspec, hstart⟩ := bind_eq_ok_iff.1 h
    cases hstart
    obtain ⟨parsed, hparsed, hresolved⟩ := bind_eq_ok_iff.1 hspec
    obtain ⟨-, -, hsource⟩ := bind_eq_ok_iff.1 hresolved
    cases hsource
    exact Image.Spec.strength_le_of_parse (CompileError.validation_eq_ok_iff.1 hparsed)
  · obtain ⟨ratio, -, hstart⟩ := bind_eq_ok_iff.1 h
    cases hstart

namespace JobRequest

variable {r : JobRequest} {c : JobContext} {reply : Option EnhancerReply}

theorem Yields.exists_hundredths {family : Family} {sampling : Sampling}
    (h : r.Yields c family sampling) (hmode : r.mode.isPartial) :
    ∃ k ≤ 100, sampling.denoise = hundredths k := by
  cases h with
  | generation r start hstart =>
    rw [← (r.start_delivers c).value start hstart] at hmode
    cases start with
    | size => cases hmode
    | image source =>
      have hstrength := GenerationRequest.strength_le_of_start hstart
      exact ⟨_, Nat.sub_le _ _, Image.denoise_eq_hundredths hstrength⟩
  | variation r =>
    cases hr : r.strength with
    | weak =>
      have hweak : (0.48 : Float) = hundredths 48 := by decide +kernel
      exact ⟨48, by norm_num, by simp only [VariationRequest.sampling, hr]; exact hweak⟩
    | strong =>
      have hstrong : (0.75 : Float) = hundredths 75 := by decide +kernel
      exact ⟨75, by norm_num, by simp only [VariationRequest.sampling, hr]; exact hstrong⟩
  | fluxEdit r | qwenEdit r | animation r => cases hmode

theorem Yields.eq_of_variation {r : VariationRequest} {family : Family} {sampling : Sampling}
    (h : Yields c family (.variation r) sampling) : sampling = r.sampling c family := by
  cases h
  rfl

/-- A job that keeps an image in part has a step at least. -/
theorem Yields.steps_ne_zero {family : Family} {sampling : Sampling}
    (h : r.Yields c family sampling) (hmode : r.mode.isPartial) : sampling.steps ≠ 0 := by
  have hsteps : Sampling.isSteps sampling.steps := by
    cases h with
    | generation r start | variation r => exact Sampling.isSteps_resolveSteps _ _ _
    | fluxEdit r | qwenEdit r | animation r => cases hmode
  exact UInt32.pos_iff_ne_zero.1 (of_decide_eq_true hsteps)

theorem exists_denoise_of_plan {p : Plan} (hp : r.plan c reply = .ok p)
    (hmode : r.mode.isPartial) : ∃ denoise, p.details.denoise = some denoise := by
  cases r with
  | generation r =>
    obtain @⟨_, begin, _, _, _, _, _, _, _, _, -⟩ := GenerationRequest.plan_eq_ok_iff.1 hp
    cases begin <;> exact ⟨_, rfl⟩
  | variation r =>
    obtain ⟨⟩ := VariationRequest.plan_eq_ok_iff.1 hp
    exact ⟨_, rfl⟩
  | upscale r | edit r | animation r => cases hmode

/-- An edit alone shows several images. -/
theorem images_extent (h : r.mode ≠ .edit) : (r.extent c).images = 1 := by
  cases r with
  | edit r => exact absurd rfl h
  | generation | variation | upscale | animation => rfl

end JobRequest

/-! ## The stages of a job -/

/-- Two stages run what a denoise of `k` hundredths leaves of the steps: the first one starts at a
step nearest to what is left out, and the second one stops after the last step, unless there are
more steps than a sampler is told to stop at. -/
structure Graph.RunsRemainder (g : Graph) (first second : String) (steps : UInt32) (k : Nat) :
    Prop where
  starts : ∃ start : UInt32, g.value? first "start_at_step" = some (.ofUInt32 start) ∧
    start ≤ steps ∧ 100 * start.toNat ≤ (100 - k) * steps.toNat + 50 ∧
    (100 - k) * steps.toNat ≤ 100 * start.toNat + 50 ∧ (start < steps ↔ 50 < k * steps.toNat)
  stops : ∃ stop : Int64, g.value? second "end_at_step" = some (.int stop) ∧
    (steps.toNat ≤ 10000 → (steps.toNat : Int) ≤ stop.toInt)

section

attribute [local instance] Text.decideEq

/-- Checks that the second stage stops at the last step that a sampler may have, whatever a job
binds. -/
def ModeSpec.stopsLast (s : ModeSpec) : Bool :=
  (Template.layout? s.template).any (fun l =>
      match l.value? s.sampler "end_at_step" with
      | some (.int stop) => stop = 10000
      | _ => false) &&
    (s.footprint .wan { images := 1 }).all fun f => !decide (f.Covers s.sampler "end_at_step")

theorem stopsLast_of_mem_modes : ∀ s ∈ Family.wan.spec.modes, s.stopsLast := by
  decide +kernel

end

namespace Compiled.SampledBy

variable {x : Compiled} {r : JobRequest} {c : JobContext} {s : ModeSpec} {l start : Layout}
  {p : Sampling}

theorem value?_stop (h : x.SampledBy r c .wan s l start p) (hmode : r.mode ≠ .edit) :
    x.graph.value? s.sampler "end_at_step" = some (.int 10000) := by
  obtain ⟨bs, samplers, hbound, -, -⟩ := h.bound
  have hstops := stopsLast_of_mem_modes s (mem_modes_of_modeSpec h.spec).1
  rw [ModeSpec.stopsLast, h.sound.template, Option.any_some, Bool.and_eq_true] at hstops
  obtain ⟨htemplate, hkept⟩ := hstops
  have hvalue : l.value? s.sampler "end_at_step" = some (.int 10000) := by
    split at htemplate
    · next stop hstop => rw [hstop, of_decide_eq_true htemplate]
    · cases htemplate
  have hcovers : ∀ f ∈ s.footprint .wan (r.extent c), ¬ f.Covers s.sampler "end_at_step" := by
    intro f hf
    have hmem := (s.footprint_sublist .wan (r.extent c)).subset hf
    rw [JobRequest.images_extent hmode] at hmem
    simpa using List.all_eq_true.1 hkept f hmem
  rw [hbound.value? _ _ hcovers, h.sound.start_eq (by simp), Layout.value?_graph, hvalue]

theorem exists_stages (h : x.SampledBy r c .wan s l start p) :
    ∃ first, s.initialSampler = some first ∧
      x.graph.Stages first s.sampler p (Sampling.window p.steps p.denoise) := by
  obtain ⟨bs, samplers, hbound, hsamplers, hsub⟩ := h.bound
  exact h.sound.exists_stages h.spec hsamplers (h.sound.start_eq (by simp) ▸ hbound) hsub

end Compiled.SampledBy

namespace JobRequest

variable {r : JobRequest} {c : JobContext} {reply : Option EnhancerReply} {x : Compiled}

/-- A job on WAN that keeps an image in part is sampled in two stages. -/
theorem exists_sampledBy_of_partial (h : r.compile c reply = .ok x)
    (hwan : x.details.family = some .wan) (hmode : r.mode.isPartial) :
    ∃ s l start p, x.SampledBy r c .wan s l start p := by
  obtain ⟨family, s, l, start, p, hsampled⟩ := exists_sampledBy_of_compile h (by
    rintro hupscale
    rw [hupscale] at hmode
    cases hmode)
  obtain rfl : family = .wan := Option.some.inj (hsampled.ofFamily.symm.trans hwan)
  exact ⟨s, l, start, p, hsampled⟩

/-- A compiled job on WAN that keeps an image in part records a denoise of whole hundredths, and
its stages run what the denoise leaves of the recorded steps. -/
theorem compile_remainder (h : r.compile c reply = .ok x) (hwan : x.details.family = some .wan)
    (hmode : r.mode.isPartial) :
    ∃ s first steps k, modeSpec .wan r.mode = .ok s ∧ s.initialSampler = some first ∧
      x.details.steps = some steps ∧ x.details.denoise = some (hundredths k) ∧ k ≤ 100 ∧
      x.graph.RunsRemainder first s.sampler steps k := by
  obtain ⟨s, l, start, p, hsampled⟩ := exists_sampledBy_of_partial h hwan hmode
  obtain ⟨first, hfirst, hstages⟩ := hsampled.exists_stages
  obtain ⟨k, hk, hdenoise⟩ := hsampled.yields.exists_hundredths hmode
  have hsteps := hsampled.yields.steps_ne_zero hmode
  obtain ⟨hunder, hover⟩ := Sampling.window_near hsteps hk
  obtain ⟨plan, _, _, _, _, _, hplan, -, -, hrecord⟩ := exists_plan_of_compile h
  have hrecorded : x.details.denoise = some (hundredths k) := by
    obtain ⟨denoise, hplanned⟩ := exists_denoise_of_plan hplan hmode
    have hkept : x.details.denoise = some denoise := by rw [hrecord, hplanned]
    rw [hkept, hsampled.recorded.denoise denoise hkept, hdenoise]
  have hedit : r.mode ≠ .edit := by
    intro hedit
    rw [hedit] at hmode
    cases hmode
  have hstart := hstages.start
  rw [hdenoise] at hstart
  refine ⟨s, first, p.steps, k, hsampled.spec, hfirst, hsampled.recorded.steps, hrecorded, hk,
    ⟨_, hstart, ?_, hunder, hover, Sampling.window_start_lt_iff hsteps hk⟩,
    ⟨10000, hsampled.value?_stop hedit, fun hlast => Int.ofNat_le.2 hlast⟩⟩
  have hfits := Sampling.fits_window p.steps (hundredths k)
  exact UInt32.le_trans hfits.ordered hfits.within

/-- A weak variation on WAN of a number of steps. -/
def sampleVariation (steps : UInt32) : JobRequest :=
  variation { model := some "WAN: high.safetensors", image := "a.png", steps := some steps }

/-- A variation of three steps runs the last of them. -/
theorem compile_remainder_three_steps :
    ∃ x, (sampleVariation 3).compile sampleContext = .ok x ∧
      ∃ s first steps k, modeSpec .wan .weakVariation = .ok s ∧ s.initialSampler = some first ∧
        x.details.steps = some steps ∧ x.details.denoise = some (hundredths k) ∧ k ≤ 100 ∧
        x.graph.RunsRemainder first s.sampler steps k := by
  obtain ⟨x, hx⟩ := exists_compile_of_plan (sampleVariation 3) sampleContext none
    (by decide +kernel)
  exact ⟨x, hx, compile_remainder hx (family_of_compile (by decide) hx) rfl⟩

/-- What holds of the stages of every job on WAN that keeps an image in part and records a denoise
greater than zero. -/
def ForPartialDenoise (P : Graph → String → String → UInt32 → Prop) : Prop :=
  ∀ (r : JobRequest) (c : JobContext) (x : Compiled) (s : ModeSpec) (first : String)
    (steps : UInt32) (denoise : Float), r.compile c = .ok x → x.details.family = some .wan →
    r.mode.isPartial → modeSpec .wan r.mode = .ok s → s.initialSampler = some first →
    x.details.steps = some steps → x.details.denoise = some denoise → 0.0 < denoise →
    P x.graph first s.sampler steps

/-- What holds of the stages of every such job holds of those of a weak variation. -/
theorem ForPartialDenoise.exists_of_sampleVariation {P : Graph → String → String → UInt32 → Prop}
    (h : ForPartialDenoise P) {steps : UInt32} (hsteps : Sampling.isSteps steps)
    (hplan : ((sampleVariation steps).plan sampleContext none).isOk) :
    ∃ g first second, P g first second steps ∧
      g.value? first "start_at_step" = some (.ofUInt32 (Sampling.window steps 0.48).1) ∧
      g.value? second "end_at_step" = some (.int 10000) := by
  obtain ⟨x, hx⟩ := exists_compile_of_plan (sampleVariation steps) sampleContext none hplan
  have hfamily : (sampleVariation steps).family sampleContext = .ok .wan := by
    show (sampleVariation 0).family sampleContext = .ok .wan
    decide
  have hwan := family_of_compile hfamily hx
  obtain ⟨s, l, start, p, hsampled⟩ := exists_sampledBy_of_partial hx hwan rfl
  obtain ⟨first, hfirst, hstages⟩ := hsampled.exists_stages
  have hp := Yields.eq_of_variation hsampled.yields
  have hrecorded : p.steps = steps := by
    rw [hp]
    exact Sampling.resolveSteps_of_isSteps _ _ hsteps
  have hweak : p.denoise = 0.48 := by
    rw [hp]
    rfl
  have hstart := hstages.start
  have hrecord := hsampled.recorded.steps
  rw [hrecorded] at hstart hrecord
  rw [hweak] at hstart
  obtain ⟨plan, _, _, _, _, _, hplanned, -, -, hdetails⟩ := exists_plan_of_compile hx
  obtain ⟨denoise, hdenoise⟩ := exists_denoise_of_plan hplanned rfl
  have hkept : x.details.denoise = some denoise := by rw [hdetails, hdenoise]
  have hpositive : 0.0 < denoise := by
    rw [hsampled.recorded.denoise denoise hkept, hweak]
    decide
  exact ⟨x.graph, first, s.sampler,
    h _ _ x s first steps denoise hx hwan rfl hsampled.spec hfirst hrecord hkept hpositive, hstart,
    hsampled.value?_stop (by simp [sampleVariation, mode, VariationStrength.mode])⟩

/-- Not every job on WAN that denoises a part of its image has a step for its first stage to start
at before the last one, and not every one has a second stage that stops after the last step. -/
theorem not_forall_remainder :
    (¬ ForPartialDenoise fun g first _ steps => ∃ start : UInt32,
      g.value? first "start_at_step" = some (.ofUInt32 start) ∧ start < steps) ∧
    ¬ ForPartialDenoise fun g _ second steps => ∃ stop : Int64,
      g.value? second "end_at_step" = some (.int stop) ∧ (steps.toNat : Int) ≤ stop.toInt := by
  constructor
  · intro hstarts
    obtain ⟨g, first, second, ⟨start, hstart, hlt⟩, hwindow, -⟩ :=
      hstarts.exists_of_sampleVariation (show Sampling.isSteps 1 by decide) (by decide)
    have hskipped : (Sampling.window 1 0.48).1 = 1 := by decide
    rw [hwindow, hskipped] at hstart
    obtain rfl : start = 0 := by
      rw [UInt32.lt_iff_toNat_lt] at hlt
      exact UInt32.toNat_inj.1 (Nat.lt_one_iff.1 hlt)
    exact absurd (Value.int.inj (Option.some.inj hstart)) (by decide)
  · intro hstops
    obtain ⟨g, first, second, ⟨stop, hstop, hle⟩, -, hlast⟩ :=
      hstops.exists_of_sampleVariation (show Sampling.isSteps 20000 by decide) (by decide)
    rw [hlast] at hstop
    obtain rfl := Value.int.inj (Option.some.inj hstop)
    exact absurd hle (by decide)

end JobRequest

end Renderflow
