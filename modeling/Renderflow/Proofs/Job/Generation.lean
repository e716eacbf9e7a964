import Renderflow.Proofs.Image
import Renderflow.Proofs.Job.Conform

/-!
# Generations follow their modes

A generation starts from an image or from a size. Either way its bindings stay within the
footprint of its mode, and its record tells what they leave in the graph.
-/

namespace Renderflow

theorem GenerationRequest.start_delivers (r : GenerationRequest) (c : JobContext) :
    Delivers (r.start c) fun start => start.mode = (JobRequest.generation r).mode := by
  unfold GenerationRequest.start
  cases himage : r.image.bind Text.nonBlank? with
  | some spec =>
    apply Delivers.bind (Image.resolve_delivers c.world spec)
    intro source _
    exact .ok (by simp [Start.mode, JobRequest.mode, himage])
  | none =>
    apply Delivers.bind (.validation _)
    intro ratio _
    exact .ok (by simp [Start.mode, JobRequest.mode, himage])

/-- The bindings of a start show what the record of the job tells about it. -/
def Start.Shows (start : Start) (s : ModeSpec) (bs : List Binding) : Prop :=
  match start with
  | .image source => ∃ load, s.loadImage = some load ∧
    Binds bs load "url_or_path" (.str source.location)
  | .size ratio mpSize batch => ∃ latent, s.latent = some latent ∧ s.loadImage = none ∧
    Binds bs latent "aspect_ratio" (.str ratio) ∧
    Binds bs latent "mp_size_float" (.float mpSize) ∧
    Binds bs latent "batch_size" (.ofUInt32 batch)

theorem Start.Shows.mono {start : Start} {s : ModeSpec} {bs bs' : List Binding}
    (h : start.Shows s bs) (hsub : bs ⊆ bs') : start.Shows s bs' := by
  cases start with
  | image source =>
    obtain ⟨load, hload, hlocation⟩ := h
    exact ⟨load, hload, hlocation.mono hsub⟩
  | size ratio mpSize batch =>
    obtain ⟨latent, hlatent, hload, hratio, hsize, hbatch⟩ := h
    exact ⟨latent, hlatent, hload, hratio.mono hsub, hsize.mono hsub, hbatch.mono hsub⟩

theorem Start.exists_bindings {start : Start} {s : ModeSpec} {family : Family}
    (hmode : s.mode = start.mode) (hroles : s.hasRoles family) :
    ∃ bs, start.bindings s family = .ok bs ∧
      (footprints bs).Sublist (s.latentFootprint ++ s.imageFootprint) ∧ start.Shows s bs := by
  cases start with
  | image source =>
    have hload : s.loadImage.isSome := by
      simp only [ModeSpec.hasRoles, hmode, Start.mode, Bool.and_eq_true] at hroles
      exact hroles.2
    obtain ⟨load, hload⟩ := Option.isSome_iff_exists.1 hload
    obtain ⟨bs, hbs, hfoot, hlocation⟩ := ModeSpec.exists_imageBindings hload source.location
    refine ⟨bs, hbs, ?_, load, hload, hlocation⟩
    rw [hfoot]
    exact List.sublist_append_right _ _
  | size ratio mpSize batch =>
    simp only [ModeSpec.hasRoles, hmode, Start.mode, Bool.and_eq_true] at hroles
    obtain ⟨latent, hlatent⟩ := Option.isSome_iff_exists.1 hroles.2.1.1
    obtain ⟨bs, hbs, hfoot, hratio, hsize, hbatch⟩ :=
      s.exists_latentBindings family hlatent ratio mpSize batch
    refine ⟨bs, hbs, ?_, latent, hlatent, by simpa using hroles.2.1.2, hratio, hsize, hbatch⟩
    rw [hfoot]
    exact List.sublist_append_left _ _

/-- The bindings of a generation or of a variation stay within the footprint of its mode. -/
theorem ModeSpec.subperm_footprint_of_rendering {s : ModeSpec} {family : Family} {e : Extent}
    (hmode : s.mode ≠ .upscale ∧ s.mode ≠ .edit ∧ s.mode ≠ .animation)
    {model : Model} {low : Option String} {loaders second lora samplers source : List Binding}
    (hloaders : s.modelBindings model = .ok loaders) (hfirst : e.first)
    (hsecond : s.secondaryBindings family low = .ok second) (hlow : e.second = isConfigured low)
    (hlora : footprints lora = s.loraFootprint family)
    (hsamplers : footprints samplers = s.samplerFootprint)
    (hsource : (footprints source).Sublist (s.latentFootprint ++ s.imageFootprint))
    (settings : Settings) (positive negative : String) (style : ResolvedStyle) (stem : String) :
    (footprints (loaders ++ second ++ lora ++ s.fluxClipBindings family settings ++ samplers ++
      source ++ s.promptBindings positive negative ++ s.styleBindings style ++
      s.outputBindings stem)).Subperm (s.footprint family e) := by
  have hfootprint : s.footprint family e =
      s.modelFootprint e ++ s.secondaryFootprint e ++ s.loraFootprint family ++
        s.fluxClipFootprint family ++ s.samplerFootprint ++
        (s.latentFootprint ++ s.imageFootprint) ++ s.promptFootprint ++ s.styleFootprint ++
        s.outputFootprint := by
    unfold footprint
    cases hm : s.mode <;> simp_all
  have hpair := footprints_secondaryBindings hsecond hlow
  rw [hfootprint]
  simp only [footprints_append, footprints_modelBindings hloaders hfirst, hlora, hsamplers,
    footprints_promptBindings, footprints_styleBindings, footprints_outputBindings]
  have hclip := s.footprints_fluxClipBindings family settings
  exact ((((((((List.Sublist.refl _).append hpair).append (.refl _)).append hclip).append
    (.refl _)).append hsource).append (.refl _)).append (.refl _)).append (.refl _) |>.subperm

/-- The record of a generation reports what its bindings put into the graph. -/
theorem GenerationRequest.reports_of_bound {r : GenerationRequest} {c : JobContext} {model : Model}
    {start : Start} {s : ModeSpec} {style : ResolvedStyle} {l : Layout} {g : Graph}
    {e : Extent} {bs : List Binding}
    (hbound : l.graph.Bound g (s.footprint model.family e) bs)
    (hmode : s.mode = start.mode) (hsound : s.Sound model.family e.images l l)
    {n : Node} (hloads : n.Loads model.filename)
    (hmodel : .loader s.modelLoader n "model" model.filename ∈ bs)
    (hsamples : s.Samples (r.sampling c model.family start.denoise) bs)
    (hprompts : s.promptBindings r.prompt (r.negative c model.family) ⊆ bs)
    (hshows : start.Shows s bs) :
    g.Reports s model.family e.images (r.details c model start s style) where
  sampling := by
    refine hbound.reportsSampling hsound hsamples ?_ ?_ ?_ ?_
    all_goals cases start <;> simp [details, Start.record]
  prompts := hbound.reportsPrompts hprompts (by cases start <;> rfl) (by cases start <;> rfl)
  model m hm := by
    obtain rfl : model.filename = m := by cases start <;> simpa [details, Start.record] using hm
    exact hbound.fileNames_of_loader hloads hmodel
  images := by
    cases start with
    | image source =>
      obtain ⟨load, hload, hlocation⟩ := hshows
      have hnodes : s.loadNodes model.family e.images = [load] := by
        simp [ModeSpec.loadNodes, hmode, Start.mode, hload]
      rw [hnodes]
      exact hbound.reportsImages_single hlocation rfl (.inl rfl)
    | size ratio mpSize batch =>
      obtain ⟨latent, -, hload, -⟩ := hshows
      have hnodes : s.loadNodes model.family e.images = [] := by
        simp [ModeSpec.loadNodes, hmode, Start.mode, hload]
      rw [hnodes]
      exact ⟨rfl, fun l hl => by simp [details, Start.record] at hl⟩
  size := by
    cases start with
    | image source => simp only [Graph.ReportsSize, hmode, Start.mode]
    | size ratio mpSize batch =>
      obtain ⟨latent, hlatent, -, hratio, hsize, hbatch⟩ := hshows
      simp only [Graph.ReportsSize, hmode, Start.mode]
      exact ⟨latent, hlatent, hbound.holds hratio rfl rfl, hbound.holds hsize rfl rfl,
        hbound.holds_word hbatch⟩

theorem GenerationRequest.plan_delivers (r : GenerationRequest) (c : JobContext) :
    Delivers (r.plan c) fun p => ∃ family s l start,
      p.Follows (JobRequest.generation r).mode ((JobRequest.generation r).extent c) family s l
        start := by
  unfold GenerationRequest.plan
  apply Delivers.bind (.resource _)
  intro model hmodel
  apply Delivers.bind (r.start_delivers c)
  intro start hstart
  apply Delivers.bind (.validation _)
  intro s hspec
  apply Delivers.bind (.validation _)
  intro style hstyle
  rw [hstart] at hspec
  obtain ⟨template, l, hsound⟩ := exists_sound hspec (.inl rfl)
  have hmode : s.mode = start.mode := (mem_modes_of_modeSpec hspec).2.trans hstart.symm
  have hrendering : s.mode ≠ .upscale ∧ s.mode ≠ .edit ∧ s.mode ≠ .animation := by
    rw [hmode]
    cases start <;> simp [Start.mode]
  obtain rfl : l = template := hsound.start_eq fun h => hrendering.2.1 h.1
  apply Delivers.bind (.internal ⟨_, hsound.graph, rfl⟩)
  rintro _ rfl
  apply Delivers.bind (.resource _)
  intro loaders hloaders
  apply Delivers.bind (.resource _)
  intro second hsecond
  apply Delivers.bind (.internal hsound.exists_loraBindings)
  intro lora hlora
  apply Delivers.bind (.graph (hsound.exists_samplerBindings _))
  intro samplers hsamplers
  apply Delivers.bind (.internal (Start.exists_bindings hmode hsound.roles))
  intro source hsource
  obtain ⟨n, hloads, hloader⟩ := ModeSpec.modelBindings_ok hloaders
  refine .ok ⟨model.family, s, l, l, .ofTemplate hspec (fun h => hrendering.2.1 h.1) hsound
    (by cases start <;> rfl) rfl (ModeSpec.subperm_footprint_of_rendering hrendering hloaders rfl
      hsecond rfl hlora hsamplers.1 hsource.1 _ _ _ _ _) fun g hbound => ?_⟩
  refine reports_of_bound hbound hmode hsound hloads ?_ (hsamplers.2.mono ?_) ?_
    (hsource.2.mono ?_)
  · simp [hloader]
  all_goals
    intro b hb
    simp [hb]

end Renderflow
