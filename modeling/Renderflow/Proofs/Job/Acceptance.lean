import Renderflow.Proofs.Job.FollowUp
import Renderflow.Proofs.Job.Requirements
import Renderflow.Proofs.Job.Slots

/-!
# Which jobs are compiled

The requirements of generations and of follow-ups, in the order in which they are looked at. What a
follow-up takes from the record of its source is never required: a style that is not known any more
gives way to the next one, and an animation gives up every file that it cannot read but one.
-/

namespace Renderflow

namespace Requirement

/-- A requirement on the selected model. -/
def onModel (requested : Option String) (s : Settings) (q : Model → Requirement) : Requirement :=
  .each (Selects requested s) q

end Requirement

theorem Checks.onModel {α : Type} {x : Except CompileError α} {requested : Option String}
    {s : Settings} {m : Model} (hm : selectedModel requested s = .ok m) {q : Model → Requirement}
    (h : Checks x [q m]) : Checks x [.onModel requested s q] := by
  apply Checks.each _ h
  intro m'
  rw [selects_iff, hm, Except.ok.injEq, eq_comm]

/-- Every family has the modes of generations and variations. -/
theorem Checks.commonMode (family : Family) {mode : Mode}
    (h : mode ≠ .upscale ∧ mode ≠ .edit ∧ mode ≠ .animation) :
    Checks (liftM (modeSpec family mode) : Except CompileError ModeSpec) [] := by
  apply Checks.of_exists
  cases mode with
  | txt2img | img2img | weakVariation | strongVariation => cases family <;> exact ⟨_, rfl⟩
  | upscale | edit | animation => simp at h

/-- A follow-up never fails for its style. -/
theorem Checks.followUpStyle (c : JobContext) (requested : Option String)
    (source : Option JobDetails) (family : Family) :
    Checks (liftM (ResolvedStyle.resolve c.styles (FollowUp.styleName c requested source) family) :
      Except CompileError ResolvedStyle) [] := by
  obtain ⟨style, hstyle⟩ := FollowUp.exists_resolve c requested source family
  exact .of_exists ⟨style, CompileError.validation_eq_ok_iff.2 hstyle⟩

/-! ## Generations -/

namespace GenerationRequest

/-- What a generation requires. A default ratio is not required to be one. -/
def requirements (r : GenerationRequest) (c : JobContext) : List Requirement :=
  [ .model r.model c.settings,
    .each (r.image.bind Text.nonBlank? = some ·) (.image c.world),
    .given (r.image.bind Text.nonBlank? = none) (.ratio r.aspectRatio),
    .onModel r.model c.settings fun m =>
      .each (StyleChoice r.style c.settings m.family) (.style c.styles),
    .onModel r.model c.settings fun m => .loader m.family m.filename,
    .onModel r.model c.settings fun m => .secondLoader m.family c.settings.wanLowNoiseUnet ]

theorem start_checks (r : GenerationRequest) (c : JobContext) :
    Checks (r.start c)
      [ .each (r.image.bind Text.nonBlank? = some ·) (.image c.world),
        .given (r.image.bind Text.nonBlank? = none) (.ratio r.aspectRatio) ] := by
  unfold start
  cases himage : r.image.bind Text.nonBlank? with
  | some text =>
    have hresolve : Checks (do
        let source ← Image.Spec.resolve c.world text
        .ok (Start.image source)) [.image c.world text] := by
      apply (Checks.image c.world text).bind
      intro source _
      exact .ok_value _
    apply (Checks.each (b := text) _ hresolve).append
    · simp [Requirement.given]
    · simp [eq_comm]
  | none =>
    have hratio : Checks (do
        let ratio ← AspectRatio.resolve r.aspectRatio c.settings
        .ok (Start.size ratio (Megapixels.resolve r.mpSize c.settings)
          (Renderflow.batchSize r.batchSize c.settings))) [.ratio r.aspectRatio] := by
      apply (Checks.ratio r.aspectRatio c.settings).bind
      intro ratio _
      exact .ok_value _
    apply (Checks.given (fun _ => hratio) (fun hsome => absurd rfl hsome)).cons
    simp [Requirement.each]

theorem plan_checks (r : GenerationRequest) (c : JobContext) :
    Checks (r.plan c) (r.requirements c) := by
  unfold plan requirements
  apply (Checks.model r.model c.settings).bind
  intro m hm
  have hmodel := CompileError.resource_eq_ok_iff.1 hm
  apply (r.start_checks c).bind
  intro start _
  apply (Checks.commonMode m.family (by cases start <;> simp [Start.mode])).bind
  intro s hs
  have hspec := CompileError.validation_eq_ok_iff.1 hs
  have hstyle : Checks (liftM (ResolvedStyle.resolve c.styles
      (requestedStyle r.style c.settings m.family) m.family) : Except CompileError ResolvedStyle)
      [.each (StyleChoice r.style c.settings m.family) (.style c.styles)] := by
    apply Checks.each _ (.style c.styles _ m.family)
    intro text
    rw [styleChoice_iff, eq_comm]
  apply (Checks.onModel hmodel hstyle).bind
  intro style _
  apply (Checks.internal s.graph).bind
  intro template _
  apply (Checks.onModel hmodel (.loader s m)).bind
  intro loaders _
  apply (Checks.onModel hmodel (.secondLoader hspec c.settings.wanLowNoiseUnet)).bind
  intro second _
  apply (Checks.internal (s.loraBindings m.family)).bind
  intro lora _
  apply (Checks.graph (s.samplerBindings template _)).bind
  intro samplers _
  apply (Checks.internal (start.bindings s m.family)).bind
  intro source _
  exact .ok_value _

/-- A generation is compiled if it meets its requirements, and otherwise it is refused for the first
one that it does not meet. -/
theorem generation_requires (r : GenerationRequest) (c : JobContext) :
    Requires (r.compile c) (r.requirements c) :=
  JobRequest.requires_of_plan (.generation r) c none (r.plan_checks c)

/-- The checkpoint that is selected in the sample contexts. -/
def baseModel : Model := { family := .sdxl, filename := "base.safetensors", inferred := false }

theorem selects_paintContext_iff {m : Model} :
    Selects none JobRequest.paintContext.settings m ↔ m = baseModel := by
  have hbase : selectedModel none JobRequest.paintContext.settings = .ok baseModel := by
    decide
  rw [selects_iff, hbase, Except.ok.injEq, eq_comm]

/-- A generation that asks for nothing but a style is refused for that alone. -/
theorem exists_styleChoice_of_firstUnmet {style : Option String} {e : CompileError}
    (h : Requirement.FirstUnmet (requirements { style } JobRequest.paintContext) e) :
    ∃ text, StyleChoice style JobRequest.paintContext.settings .sdxl text ∧
      ¬ JobRequest.paintContext.styles.Knows text ∧
      e = .validation (.unknownStyle (Text.trim text)) := by
  have hreads : Family.sdxl.Reads "base.safetensors" :=
    ⟨"safetensors", by decide, "base", "safetensors", rfl, by decide, by decide⟩
  have h := h.rest ⟨baseModel, selects_paintContext_iff.2 rfl⟩
  have h := h.rest (by simp [Requirement.each])
  have h := h.rest (by simp [Requirement.given, Requirement.ratio, Requirement.each])
  cases h with
  | head _ h =>
    obtain ⟨m, hm, -, text, hchoice, hunknown, rfl⟩ := h
    obtain rfl := selects_paintContext_iff.1 hm
    exact ⟨text, hchoice, hunknown, rfl⟩
  | tail _ h =>
    have h := h.rest fun m hm => by
      obtain rfl := selects_paintContext_iff.1 hm
      exact hreads
    have h := h.rest fun m hm hwan => by
      obtain rfl := selects_paintContext_iff.1 hm
      cases hwan
    cases h

/-- A generation in a style of the book is served, and one in a style that is not known is refused
for it. -/
theorem generation_requires_glow :
    (∃ x, GenerationRequest.compile { style := some " glow " } JobRequest.paintContext = .ok x) ∧
      GenerationRequest.compile { style := some "gone" } JobRequest.paintContext =
        .error (.validation (.unknownStyle "gone")) := by
  constructor
  · cases hx : GenerationRequest.compile { style := some " glow " } JobRequest.paintContext with
    | ok x => exact ⟨x, rfl⟩
    | error e =>
      obtain ⟨text, hchoice, hunknown, -⟩ := exists_styleChoice_of_firstUnmet
        ((generation_requires { style := some " glow " } JobRequest.paintContext).refused e hx)
      obtain rfl : text = "glow" := hchoice.eq_of_requested (by decide)
      have hglow : JobRequest.paintContext.styles.Lists "glow" :=
        JobRequest.lists_paintContext_iff.2 (.inr (.inl rfl))
      exact absurd (.inr hglow) hunknown
  · have hrequires := generation_requires { style := some "gone" } JobRequest.paintContext
    have hgone : ¬ JobRequest.paintContext.styles.Knows "gone" := by
      rw [StyleBook.Knows, JobRequest.lists_paintContext_iff]
      decide
    cases hx : GenerationRequest.compile { style := some "gone" } JobRequest.paintContext with
    | ok x =>
      have hmet := hrequires.served.1 ⟨x, hx⟩ _ (.tail _ (.tail _ (.tail _ (.head _))))
      exact absurd (hmet baseModel (selects_paintContext_iff.2 rfl) "gone" (.requested rfl)) hgone
    | error e =>
      obtain ⟨text, hchoice, -, rfl⟩ := exists_styleChoice_of_firstUnmet (hrequires.refused e hx)
      obtain rfl : text = "gone" := hchoice.eq_of_requested (by decide)
      rfl

end GenerationRequest

/-- A compiled job records what a text names, and its LoRA node holds the slots of that style if it
is made for the family of the job. -/
def Compiled.Wears (x : Compiled) (c : JobContext) (mode : Mode) (text : String) : Prop :=
  ∃ family s lora name style?, x.details.family = some family ∧ modeSpec family mode = .ok s ∧
    s.lora = some lora ∧ c.styles.Names text name style? ∧ x.details.style = some name ∧
    x.graph.Styled lora style? family

/-- A compiled job with a LoRA node wears the style that it uses. -/
theorem JobRequest.exists_wears_of_compile (r : JobRequest) {c : JobContext} {x : Compiled}
    (h : r.compile c = .ok x) (hmode : r.mode ≠ .animation ∧ r.mode ≠ .edit) {uses : String → Prop}
    (huses : ∀ family recorded style?, r.UsesStyle c family recorded style? →
      ∃ text name, uses text ∧ recorded = some name ∧ c.styles.Names text name style?) :
    ∃ text, uses text ∧ x.Wears c r.mode text := by
  obtain ⟨family, s, style?, hfamily, hspec, hstyle, hstyled, -⟩ := styled_of_compile h
  have hlora : s.lora ≠ none := by simp [ModeSpec.lora_eq_none_iff hspec, hmode]
  obtain ⟨lora, hlora⟩ := Option.ne_none_iff_exists'.1 hlora
  obtain ⟨text, name, htext, hrecorded, hnames⟩ := huses family _ style? hstyle
  exact ⟨text, htext, family, s, lora, name, style?, hfamily, hspec, hlora, hnames, hrecorded,
    hstyled lora hlora⟩

/-! ## Variations -/

namespace VariationRequest

def requirements (r : VariationRequest) (c : JobContext) : List Requirement :=
  [ .model r.model c.settings,
    .onModel r.model c.settings fun m => .loader m.family m.filename,
    .onModel r.model c.settings fun m => .secondLoader m.family c.settings.wanLowNoiseUnet ]

theorem plan_checks (r : VariationRequest) (c : JobContext) :
    Checks (r.plan c) (r.requirements c) := by
  unfold plan requirements
  apply (Checks.model r.model c.settings).bind
  intro m hm
  have hmodel := CompileError.resource_eq_ok_iff.1 hm
  apply (Checks.commonMode m.family (by cases r.strength <;> decide)).bind
  intro s hs
  have hspec := CompileError.validation_eq_ok_iff.1 hs
  apply (Checks.followUpStyle c r.style r.source m.family).bind
  intro style _
  apply (Checks.internal s.graph).bind
  intro template _
  apply (Checks.onModel hmodel (.loader s m)).bind
  intro loaders _
  apply (Checks.onModel hmodel (.secondLoader hspec c.settings.wanLowNoiseUnet)).bind
  intro second _
  apply (Checks.internal (s.loraBindings m.family)).bind
  intro lora _
  apply (Checks.graph (s.samplerBindings template _)).bind
  intro samplers _
  apply (Checks.internal (s.imageBindings r.location)).bind
  intro image _
  exact .ok_value _

theorem exists_wears (r : VariationRequest) {c : JobContext} {x : Compiled}
    (h : r.compile c = .ok x) :
    ∃ text, FollowUp.Uses c r.style r.source text ∧ x.Wears c r.strength.mode text := by
  have hmode : r.strength.mode ≠ .animation ∧ r.strength.mode ≠ .edit := by
    cases r.strength <;> decide
  apply JobRequest.exists_wears_of_compile (.variation r) h hmode
  intro family recorded style? huses
  cases huses with
  | variation huses hnames => exact ⟨_, _, huses, rfl, hnames⟩

end VariationRequest

/-! ## Upscales -/

namespace UpscaleRequest

def requirements (r : UpscaleRequest) (c : JobContext) : List Requirement :=
  [ .model r.model c.settings,
    .onModel r.model c.settings fun m =>
      .of (m.family ≠ .wan) (.validation (.unsupportedMode .wan .upscale)),
    .onModel r.model c.settings fun m => .loader m.family m.filename ]

/-- Every family but WAN has upscales. -/
theorem upscaleMode (family : Family) :
    Checks (liftM (modeSpec family .upscale) : Except CompileError ModeSpec)
      [.of (family ≠ .wan) (.validation (.unsupportedMode .wan .upscale))] := by
  apply Checks.validation
  · rintro s hs rfl
    cases hs
  · intro cause hcause
    cases family with
    | wan => exact ⟨fun h => h rfl, congrArg CompileError.validation (Except.error.inj hcause).symm⟩
    | flux | sdxl | qwen => cases hcause

theorem plan_checks (r : UpscaleRequest) (c : JobContext) :
    Checks (r.plan c) (r.requirements c) := by
  unfold plan requirements
  apply (Checks.model r.model c.settings).bind
  intro m hm
  have hmodel := CompileError.resource_eq_ok_iff.1 hm
  apply (Checks.onModel hmodel (upscaleMode m.family)).bind
  intro s _
  apply (Checks.followUpStyle c r.style r.source m.family).bind
  intro style _
  apply (Checks.internal (s.require "upscale model loader" s.upscaleLoader)).bind
  intro upscaler _
  apply (Checks.internal (s.require "upscale helper" s.latent)).bind
  intro helper _
  apply (Checks.internal s.graph).bind
  intro template _
  apply (Checks.onModel hmodel (.loader s m)).bind
  intro loaders _
  apply (Checks.internal (s.loraBindings m.family)).bind
  intro lora _
  apply (Checks.internal (s.imageBindings r.location)).bind
  intro image _
  exact .ok_value _

theorem exists_wears (r : UpscaleRequest) {c : JobContext} {x : Compiled}
    (h : r.compile c = .ok x) :
    ∃ text, FollowUp.Uses c r.style r.source text ∧ x.Wears c .upscale text := by
  apply JobRequest.exists_wears_of_compile (.upscale r) h (by simp [JobRequest.mode])
  intro family recorded style? huses
  cases huses with
  | upscale huses hnames => exact ⟨_, _, huses, rfl, hnames⟩

end UpscaleRequest

/-! ## Animations -/

namespace AnimationRequest

open Animation

/-- The file of the second stage: that of the settings for animations if it looks like a file name,
else that of the settings for WAN if it does. -/
inductive SecondFile (s : Settings) : String → Prop
  | animation {file : String} (h : s.wanAnimation.lowNoiseUnet.bind Text.nonBlank? = some file)
    (hdot : '.' ∈ file.toList) : SecondFile s file
  | family {file : String}
    (hnone : ∀ other, s.wanAnimation.lowNoiseUnet.bind Text.nonBlank? = some other →
      '.' ∉ other.toList)
    (h : s.wanLowNoiseUnet.bind Text.nonBlank? = some file) (hdot : '.' ∈ file.toList) :
    SecondFile s file

def requirements (s : Settings) : List Requirement :=
  [.each (SecondFile s) (.loader .wan)]

theorem firstAsset?_append (first second : List (Option String)) :
    firstAsset? (first ++ second) = (firstAsset? first).or (firstAsset? second) := by
  simp [firstAsset?, List.findSome?_append]

theorem firstAsset?_singleton_eq_some {candidate : Option String} {file : String} :
    firstAsset? [candidate] = some file ↔
      candidate.bind Text.nonBlank? = some file ∧ '.' ∈ file.toList := by
  simp [firstAsset?, Option.filter_eq_some_iff]

theorem firstAsset?_singleton_eq_none {candidate : Option String} :
    firstAsset? [candidate] = none ↔
      ∀ file, candidate.bind Text.nonBlank? = some file → '.' ∉ file.toList := by
  simp [firstAsset?, Option.filter_eq_none_iff]

theorem secondFile_iff {s : Settings} {file : String} :
    SecondFile s file ↔ lowNoise? s = some file := by
  have hfirst : lowNoise? s =
      (firstAsset? [s.wanAnimation.lowNoiseUnet]).or (firstAsset? [s.wanLowNoiseUnet]) :=
    firstAsset?_append [s.wanAnimation.lowNoiseUnet] [s.wanLowNoiseUnet]
  rw [hfirst, Option.or_eq_some_iff, firstAsset?_singleton_eq_some, firstAsset?_singleton_eq_some,
    firstAsset?_singleton_eq_none]
  constructor
  · intro h
    cases h with
    | animation h hdot => exact .inl ⟨h, hdot⟩
    | family hnone h hdot => exact .inr ⟨hnone, h, hdot⟩
  · rintro (⟨h, hdot⟩ | ⟨hnone, h, hdot⟩)
    · exact .animation h hdot
    · exact .family hnone h hdot

/-- The file of the second stage needs no trimming. -/
theorem bind_lowNoise? (s : Settings) : (lowNoise? s).bind Text.nonBlank? = lowNoise? s := by
  apply Text.bind_nonBlank?
  intro file hfile
  obtain ⟨candidate, -, hcandidate⟩ := List.exists_of_findSome?_eq_some hfile
  obtain ⟨hbind, -⟩ := Option.filter_eq_some_iff.1 hcandidate
  exact Text.nonBlank?_of_bind hbind

/-- The model of the first stage is one that a loader reads, so it never fails. -/
theorem highNoise_checks (r : AnimationRequest) (settings : Settings) (s : ModeSpec) :
    Checks (liftM (r.highNoiseBindings settings s) : Except CompileError (List Binding)) [] := by
  unfold highNoiseBindings
  cases hm : r.highNoise? settings with
  | none => exact .ok_value _
  | some m =>
    obtain ⟨candidate, -, hread⟩ := List.exists_of_findSome?_eq_some hm
    obtain ⟨name, -, hreadable⟩ := Option.bind_eq_some_iff.1 hread
    simp only [readable?] at hreadable
    split at hreadable
    · next n hloader =>
      obtain rfl := Option.some.inj hreadable
      refine .of_exists ⟨[.loader s.modelLoader n "model" name],
        CompileError.resource_eq_ok_iff.2 ?_⟩
      simp only [ModeSpec.modelBindings, hloader]
      rfl
    · cases hreadable

theorem plan_checks (r : AnimationRequest) (c : JobContext) (reply : Option EnhancerReply) :
    Checks (r.plan c reply) (requirements c.settings) := by
  have hfile : SecondFile c.settings =
      fun file => (lowNoise? c.settings).bind Text.nonBlank? = some file := by
    funext file
    rw [bind_lowNoise?, secondFile_iff]
  have hspec : modeSpec .wan .animation = .ok Catalog.Wan.animation := rfl
  unfold plan requirements
  rw [hfile]
  apply (Checks.of_exists ⟨_, CompileError.validation_eq_ok_iff.2 hspec⟩).bind
  intro s hs
  obtain rfl : Catalog.Wan.animation = s :=
    Except.ok.inj (hspec.symm.trans (CompileError.validation_eq_ok_iff.1 hs))
  apply (Checks.internal _).bind
  intro video _
  apply (Checks.internal _).bind
  intro template _
  apply (r.highNoise_checks c.settings _).bind
  intro first _
  apply (Checks.optionalLoader rfl .wan (lowNoise? c.settings)).bind
  intro second _
  apply (Checks.internal _).bind
  intro image _
  apply (Checks.graph _).bind
  intro samplers _
  exact .ok_value _

end AnimationRequest

/-! ## Follow-ups -/

/-- Variations and upscales are compiled if they meet their requirements, whatever style is asked
for or recorded, and in the style that they use. Animations are compiled if the file of their second
stage can be read. What is refused is refused for the first requirement that is not met. -/
theorem followUps_require :
    (∀ (r : VariationRequest) (c : JobContext), Requires (r.compile c) (r.requirements c) ∧
      ∀ x, r.compile c = .ok x →
        ∃ text, FollowUp.Uses c r.style r.source text ∧ x.Wears c r.strength.mode text) ∧
    (∀ (r : UpscaleRequest) (c : JobContext), Requires (r.compile c) (r.requirements c) ∧
      ∀ x, r.compile c = .ok x →
        ∃ text, FollowUp.Uses c r.style r.source text ∧ x.Wears c .upscale text) ∧
    ∀ (r : AnimationRequest) (c : JobContext) (reply : Option EnhancerReply),
      Requires (r.compile c reply) (AnimationRequest.requirements c.settings) := by
  refine ⟨fun r c => ⟨?_, fun x hx => r.exists_wears hx⟩,
    fun r c => ⟨?_, fun x hx => r.exists_wears hx⟩, fun r c reply => ?_⟩
  · exact JobRequest.requires_of_plan (.variation r) c none (r.plan_checks c)
  · exact JobRequest.requires_of_plan (.upscale r) c none (r.plan_checks c)
  · exact JobRequest.requires_of_plan (.animation r) c reply (r.plan_checks c reply)

/-- A variation that asks for a style which is not known and follows a job in one that is. -/
def glowVariation : VariationRequest :=
  { source := some { jobId := "deadbeef", style := some " glow " }
    image := "a.png"
    style := some "gone" }

/-- An upscale neither of whose styles is known. -/
def staleUpscale : UpscaleRequest :=
  { source := some { jobId := "deadbeef", style := some "lost" }
    image := "a.png"
    style := some "gone" }

/-- The variation has the LoRA of the style that it follows, and the upscale has none. -/
theorem followUps_require_glow :
    ∃ x y, glowVariation.compile JobRequest.paintContext = .ok x ∧
      staleUpscale.compile JobRequest.paintContext = .ok y ∧
      x.details.style = some "glow" ∧
      (∃ lora, x.graph.HasSlot lora 1 ⟨true, "glow.safetensors", 0.8⟩) ∧
      y.details.style = some "off" ∧
      ∃ lora, ∀ i, y.graph.HasSlot lora i ⟨false, "NONE", 0.0⟩ := by
  obtain ⟨x, hx⟩ := JobRequest.exists_compile_of_plan (.variation glowVariation)
    JobRequest.paintContext none (by decide +kernel)
  obtain ⟨y, hy⟩ := JobRequest.exists_compile_of_plan (.upscale staleUpscale)
    JobRequest.paintContext none (by decide +kernel)
  have hglow : JobRequest.paintContext.styles.Lists "glow" :=
    JobRequest.lists_paintContext_iff.2 (.inr (.inl rfl))
  have hgone : ¬ JobRequest.paintContext.styles.Lists "gone" := by
    rw [JobRequest.lists_paintContext_iff]
    decide
  have hlost : ¬ JobRequest.paintContext.styles.Lists "lost" := by
    rw [JobRequest.lists_paintContext_iff]
    decide
  obtain ⟨text, huses, family, s, lora, name, style?, hfamily, -, -, hnames, hstyle, hstyled⟩ :=
    (followUps_require.1 glowVariation JobRequest.paintContext).2 x hx
  obtain ⟨text', huses', family', s', lora', name', style?', -, -, -, hnames', hstyle', hstyled'⟩ :=
    (followUps_require.2.1 staleUpscale JobRequest.paintContext).2 y hy
  obtain rfl : family = .sdxl := Option.some.inj
    (hfamily.symm.trans (JobRequest.family_of_compile (by decide) hx))
  obtain rfl : text = "glow" := by
    cases huses with
    | requested h hlists =>
      obtain rfl := Option.some.inj h
      exact absurd hlists hgone
    | inherited _ h =>
      obtain rfl := Option.some.inj h
      decide
    | off _ hstale => exact absurd hglow (hstale " glow " rfl)
  obtain rfl : text' = "off" := by
    cases huses' with
    | requested h hlists =>
      obtain rfl := Option.some.inj h
      exact absurd hlists hgone
    | inherited _ h hlists =>
      obtain rfl := Option.some.inj h
      exact absurd hlists hlost
    | off => rfl
  obtain ⟨rfl, rfl⟩ := hnames.eq_of_find? (by decide) (by decide) (by decide)
    (JobRequest.find?_paintContext "glow")
  have hown : JobRequest.glow.IsFor .sdxl := .inr (by decide)
  cases hnames' with
  | style _ hoff => exact absurd (by decide) hoff
  | off =>
    exact ⟨x, y, hx, hy, hstyle, ⟨lora, hstyled.own _ rfl hown 1 _ rfl⟩, hstyle', lora',
      hstyled'.disabled (by simp)⟩

end Renderflow
