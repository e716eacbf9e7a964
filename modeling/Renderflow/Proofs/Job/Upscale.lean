import Renderflow.Job.Upscale
import Renderflow.Proofs.Job.Conform

/-!
# Upscales follow their modes

An upscale leaves the sampler as its template is tuned, but for the seed. Its record reads
the tuned values back.
-/

namespace Renderflow

namespace UpscaleRequest

theorem tuned?_graph (l : Layout) (s : ModeSpec) (input : String) :
    tuned? l.graph s input = (l.value? s.sampler input).bind Value.asFloat? := by
  rw [← Layout.value?_graph]
  rfl

/-- The steps that a tuned sampler holds are those that its record reports. -/
theorem tuned?_steps {l : Layout} {s : ModeSpec} (h : ModeSpec.isTuned l s.sampler) :
    ∃ v, l.value? s.sampler "steps" = some v ∧
      v.whole? = reportedWord ((tuned? l.graph s "steps").map Float.toUInt32) ∧
      v.whole?.isSome := by
  simp only [ModeSpec.isTuned, Bool.and_eq_true] at h
  have hsteps := h.1.1
  split at hsteps
  case h_2 => simp at hsteps
  case h_1 n hn =>
    have hword : ((Float.ofInt n.toInt).toUInt32.toNat : Int) = n.toInt := by simpa using hsteps
    refine ⟨.int n, hn, ?_, rfl⟩
    simp [tuned?_graph, hn, Value.asFloat?, Value.whole?, Value.asInt?, reportedWord, hword]

/-- A graph that keeps a tuned value of its template holds what the record reads back. -/
theorem holds_tuned? {l : Layout} {g : Graph} {s : ModeSpec} {input : String}
    (hvalue : g.value? s.sampler input = l.value? s.sampler input)
    (h : ModeSpec.isTuned l s.sampler) (hinput : input ∈ ["cfg", "denoise"]) :
    g.Holds s.sampler input Value.asFloat? (tuned? l.graph s input) := by
  simp only [ModeSpec.isTuned, Bool.and_eq_true] at h
  have hsome : ((l.value? s.sampler input).bind Value.asFloat?).isSome := by
    rcases List.mem_pair.1 hinput with rfl | rfl
    · exact h.1.2
    · exact h.2
  obtain ⟨a, ha⟩ := Option.isSome_iff_exists.1 hsome
  obtain ⟨v, hv, hread⟩ := Option.bind_eq_some_iff.1 ha
  exact ⟨v, a, hvalue.trans hv, hread, (tuned?_graph l s input).trans ha⟩

/-- The bindings that an upscale has besides those of other jobs. -/
def Scales (r : UpscaleRequest) (c : JobContext) (s : ModeSpec) (bs : List Binding) : Prop :=
  ∃ helper upscaler, s.latent = some helper ∧ s.upscaleLoader = some upscaler ∧
    Binds bs s.sampler "seed" (.int (r.seed.getD c.freshSeed)) ∧
    Binds bs helper "aspect_ratio" (.str (aspectRatio r.source)) ∧
    Binds bs helper "upscale_by" (.float (factor c.settings)) ∧
    Binds bs upscaler "model_name" (.str (upscaleModel c.settings))

theorem footprints_scaling {s : ModeSpec} {helper upscaler : String}
    (hhelper : s.latent = some helper) (hupscaler : s.upscaleLoader = some upscaler)
    (seed : Int64) (name ratio tag : String) (factor : Float) :
    footprints
      [.set s.sampler "seed" (.int seed), .set upscaler "model_name" (.str name),
        .set helper "aspect_ratio" (.str ratio), .set helper "upscale_by" (.float factor),
        .set helper "model_type" (.str tag)] = s.upscaleFootprint := by
  simp [ModeSpec.upscaleFootprint, hhelper, hupscaler, Footprint.constants, Value.link?]

/-- The bindings of an upscale stay within the footprint of its mode. -/
theorem subperm_footprint {s : ModeSpec} {family : Family} {e : Extent} (hmode : s.mode = .upscale)
    {model : Model} {loaders lora image : List Binding}
    (hloaders : s.modelBindings model = .ok loaders) (hfirst : e.first)
    (hlora : footprints lora = s.loraFootprint family)
    (himage : footprints image = s.imageFootprint) {helper upscaler : String}
    (hhelper : s.latent = some helper) (hupscaler : s.upscaleLoader = some upscaler)
    (settings : Settings) (seed : Int64) (name ratio tag : String) (factor : Float)
    (positive negative : String) (style : ResolvedStyle) (stem : String) :
    (footprints (loaders ++ lora ++ s.fluxClipBindings family settings ++
      [.set s.sampler "seed" (.int seed), .set upscaler "model_name" (.str name),
        .set helper "aspect_ratio" (.str ratio), .set helper "upscale_by" (.float factor),
        .set helper "model_type" (.str tag)] ++
      image ++ s.promptBindings positive negative ++ s.styleBindings style ++
      s.outputBindings stem)).Subperm (s.footprint family e) := by
  have hfootprint : s.footprint family e =
      s.modelFootprint e ++ s.loraFootprint family ++ s.fluxClipFootprint family ++
        s.upscaleFootprint ++ s.imageFootprint ++ s.promptFootprint ++ s.styleFootprint ++
        s.outputFootprint := by
    simp only [ModeSpec.footprint, hmode]
  have hmodels : footprints loaders = s.modelFootprint e :=
    ModeSpec.footprints_modelBindings hloaders hfirst
  have hclip := s.footprints_fluxClipBindings family settings
  rw [hfootprint]
  simp only [footprints_append, hmodels, hlora, himage, ModeSpec.footprints_promptBindings,
    ModeSpec.footprints_styleBindings, ModeSpec.footprints_outputBindings,
    footprints_scaling hhelper hupscaler]
  exact (((((((List.Sublist.refl _).append hclip).append (.refl _)).append (.refl _)).append
    (.refl _)).append (.refl _)).append (.refl _)) |>.subperm

/-- The seed is bound; the other sampling values are those that the template is tuned to. -/
theorem reportsSampling_of_bound {l : Layout} {g : Graph} {e : Extent} {bs : List Binding}
    {s : ModeSpec} {family : Family} (hbound : l.graph.Bound g (s.footprint family e) bs)
    (hmode : s.mode = .upscale) (hsound : s.Sound family e.images l l) {d : JobDetails}
    {seed : Int64} (hseed : Binds bs s.sampler "seed" (.int seed)) (hdseed : d.seed = some seed)
    (hdsteps : d.steps = (tuned? l.graph s "steps").map Float.toUInt32)
    (hdguidance : d.guidance = tuned? l.graph s "cfg")
    (hddenoise : d.denoise = tuned? l.graph s "denoise") : g.ReportsSampling s d := by
  have hroles := hsound.roles
  simp only [ModeSpec.hasRoles, hmode, Bool.and_eq_true, Option.isNone_iff_eq_none] at hroles
  obtain ⟨-, ⟨-, hinitial⟩, hguidance⟩ := hroles
  have hsuits := hsound.suits
  simp only [ModeSpec.suits, hmode, Bool.and_eq_true] at hsuits
  obtain ⟨htuned, hkept⟩ := hsuits
  have hvalue : ∀ input ∈ ["steps", "cfg", "denoise"],
      g.value? s.sampler input = l.value? s.sampler input := by
    intro input hinput
    rw [← Layout.value?_graph]
    refine hbound.value? s.sampler input fun f hf => ?_
    simpa using List.all_eq_true.1 (List.all_eq_true.1 hkept input hinput) f
      ((s.footprint_sublist family e).subset hf)
  have hholds : ∀ input ∈ ["cfg", "denoise"],
      g.Holds s.sampler input Value.asFloat? (tuned? l.graph s input) := fun input hinput =>
    holds_tuned? (hvalue input (List.mem_cons_of_mem _ hinput)) htuned hinput
  have hone : ∀ node ∈ s.samplers, node = s.sampler := by simp [ModeSpec.samplers, hinitial]
  constructor
  · intro node hnode
    have hinput := hbound.seedInput hsound hnode
    have hname : s.seedName = "seed" := by simp [ModeSpec.seedName, hinitial]
    rw [hname] at hinput
    rw [hone node hnode] at hinput ⊢
    exact ⟨"seed", hinput, hbound.holds hseed hdseed.symm (by simp [hdseed])⟩
  · intro node hnode
    obtain ⟨v, hv, hread, hsome⟩ := tuned?_steps htuned
    obtain ⟨n, hn⟩ := Option.isSome_iff_exists.1 hsome
    rw [hone node hnode, hdsteps]
    exact ⟨v, n, (hvalue "steps" (by simp)).trans hv, hn, hread.symm.trans hn⟩
  · intro i hi
    obtain rfl : i = (s.sampler, "cfg") := by
      simpa [ModeSpec.guidanceInputs, hguidance, ModeSpec.samplers, hinitial] using hi
    rw [hdguidance]
    exact hholds "cfg" (by simp)
  · intro _ _
    rw [hddenoise]
    exact hholds "denoise" (by simp)

/-- The record of an upscale reports what its graph holds. -/
theorem reports_of_bound {r : UpscaleRequest} {c : JobContext} {model : Model} {s : ModeSpec}
    {style : ResolvedStyle} {l : Layout} {g : Graph} {e : Extent} {bs : List Binding}
    (hbound : l.graph.Bound g (s.footprint model.family e) bs) (hmode : s.mode = .upscale)
    (hsound : s.Sound model.family e.images l l)
    {n : Node} (hloads : n.Loads model.filename)
    (hmodel : .loader s.modelLoader n "model" model.filename ∈ bs) (hscales : r.Scales c s bs)
    (hprompts : s.promptBindings r.boundPrompt (r.negative c model.family) ⊆ bs)
    {load : String} (hload : s.loadImage = some load)
    (hlocation : Binds bs load "url_or_path" (.str r.location)) :
    g.Reports s model.family e.images (r.details c model s style l.graph) := by
  obtain ⟨helper, upscaler, hhelper, hupscaler, hseed, hratio, hfactor, hname⟩ := hscales
  constructor
  · exact reportsSampling_of_bound hbound hmode hsound hseed rfl rfl rfl rfl
  · exact hbound.reportsPrompts hprompts rfl rfl
  · intro m hm
    obtain rfl : model.filename = m := by simpa [details] using hm
    exact hbound.fileNames_of_loader hloads hmodel
  · have hnodes : s.loadNodes model.family e.images = [load] := by
      simp [ModeSpec.loadNodes, hmode, hload]
    rw [hnodes]
    exact hbound.reportsImages_single hlocation rfl (.inl rfl)
  · simp only [Graph.ReportsSize, hmode]
    exact ⟨helper, upscaler, hhelper, hupscaler, hbound.holds hratio rfl rfl,
      hbound.holds hfactor rfl rfl, hbound.holds hname rfl rfl⟩

theorem plan_delivers (r : UpscaleRequest) (c : JobContext) :
    Delivers (r.plan c) fun p => ∃ family s l start,
      p.Follows (JobRequest.upscale r).mode ((JobRequest.upscale r).extent c) family s l start := by
  unfold plan
  apply Delivers.bind (.resource _)
  intro model hmodel
  apply Delivers.bind (.validation _)
  intro s hspec
  apply Delivers.bind (.validation _)
  intro style hstyle
  obtain ⟨template, l, hsound⟩ := exists_sound hspec (.inl rfl)
  have hmode : s.mode = .upscale := (mem_modes_of_modeSpec hspec).2
  obtain rfl : l = template := hsound.start_eq (by simp [hmode])
  have hroles := hsound.roles
  simp only [ModeSpec.hasRoles, hmode, Bool.and_eq_true] at hroles
  obtain ⟨helper, hhelper⟩ := Option.isSome_iff_exists.1 hroles.2.1.1.1.1.1
  obtain ⟨load, hload⟩ := Option.isSome_iff_exists.1 hroles.2.1.1.1.1.2
  obtain ⟨upscaler, hupscaler⟩ := Option.isSome_iff_exists.1 hroles.2.1.1.2
  apply Delivers.bind (.internal ⟨upscaler, by rw [hupscaler]; rfl, rfl⟩)
  rintro _ rfl
  apply Delivers.bind (.internal ⟨helper, by rw [hhelper]; rfl, rfl⟩)
  rintro _ rfl
  apply Delivers.bind (.internal ⟨_, hsound.graph, rfl⟩)
  rintro _ rfl
  apply Delivers.bind (.resource _)
  intro loaders hloaders
  apply Delivers.bind (.internal hsound.exists_loraBindings)
  intro lora hlora
  apply Delivers.bind (.internal (ModeSpec.exists_imageBindings hload r.location))
  intro image himage
  obtain ⟨n, hloads, hloader⟩ := ModeSpec.modelBindings_ok hloaders
  have hfoot := subperm_footprint hmode (e := (JobRequest.upscale r).extent c) hloaders rfl hlora
    himage.1 hhelper hupscaler
  refine .ok ⟨model.family, s, l, l, .ofTemplate hspec (by simp [hmode]) hsound rfl rfl
    (hfoot _ _ _ _ _ _ _ _ _ _) fun g hbound => ?_⟩
  refine reports_of_bound hbound hmode hsound hloads ?_
    ⟨helper, upscaler, hhelper, hupscaler, .of_set ?_, .of_set ?_, .of_set ?_, .of_set ?_⟩ ?_ hload
    (himage.2.mono ?_)
  · simp [hloader]
  · simp
  · simp
  · simp
  · simp
  all_goals
    intro b hb
    simp [hb]

end UpscaleRequest

end Renderflow
