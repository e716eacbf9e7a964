import Renderflow.Proofs.Image
import Renderflow.Proofs.Job.Conform
import Renderflow.Proofs.Job.Planned

/-!
# Edits follow their modes

A Flux edit stitches its images before it binds anything else. A Qwen edit shows one image
and keeps the loader of its template.
-/

namespace Renderflow

namespace EditRequest

variable {r : EditRequest} {c : JobContext} {s : ModeSpec} {l start : Layout}

theorem checkCount_ok {least most : Nat} {expected : String} {u : Unit}
    (h : r.checkCount least most expected = .ok u) :
    least ≤ r.images.length ∧ r.images.length ≤ most := by
  unfold checkCount at h
  by_cases hcount : least ≤ r.images.length ∧ r.images.length ≤ most
  · exact hcount
  · simp [hcount] at h

theorem validImages_delivers (r : EditRequest) (c : JobContext) :
    Delivers (r.validImages c) fun images => images.length = r.images.length :=
  .bind (Image.validateAll_delivers c.world _) fun _ _ => .ok (by simp)

/-! ## Flux edits -/

theorem footprints_locationBindings (images : List String) :
    footprints (Stitch.locationBindings images) = ModeSpec.loadersFootprint images.length := by
  have hrange : List.range' 1 images.length = (images.zipIdx 1).map Prod.snd := by simp
  rw [ModeSpec.loadersFootprint, hrange, List.map_map, footprints, Stitch.locationBindings,
    List.map_map]
  rfl

/-- What a Flux edit binds after the stitching stays within the footprint of its mode. -/
theorem fluxSubperm_footprint {e : Extent} (hmode : s.mode = .edit) (hfirst : e.first)
    {images : List String} (hcount : images.length = e.images) {samplers size : List Binding}
    (hsamplers : footprints samplers = s.samplerFootprint)
    (hsize : footprints size = s.latentFootprint) {vaeLoader : String}
    (hvae : s.vaeLoader = some vaeLoader) (settings : Settings)
    (model vae positive negative stem : String) :
    (footprints ([.loader s.modelLoader (fluxLoader model) "unet_name" model,
        .set vaeLoader "vae_name" (.str vae)] ++
      s.fluxClipBindings .flux settings ++ Stitch.locationBindings images ++ samplers ++ size ++
      s.promptBindings positive negative ++ s.outputBindings stem)).Subperm
        (s.footprint .flux e) := by
  have hfootprint : s.footprint .flux e =
      s.modelFootprint e ++ s.vaeFootprint ++ s.fluxClipFootprint .flux ++
        ModeSpec.loadersFootprint e.images ++ s.samplerFootprint ++ s.latentFootprint ++
        s.promptFootprint ++ s.outputFootprint := by
    simp only [ModeSpec.footprint, hmode]
  have hloaders : footprints [.loader s.modelLoader (fluxLoader model) "unet_name" model,
      .set vaeLoader "vae_name" (.str vae)] = s.modelFootprint e ++ s.vaeFootprint := by
    simp [footprint_loader _ _ (fluxLoader_loads model), ModeSpec.modelFootprint, hfirst,
      ModeSpec.vaeFootprint, hvae, Footprint.constants, Value.link?]
  have hclip := s.footprints_fluxClipBindings .flux settings
  rw [hfootprint]
  simp only [footprints_append, hloaders, footprints_locationBindings, hcount, hsamplers, hsize,
    ModeSpec.footprints_promptBindings, ModeSpec.footprints_outputBindings]
  exact ((((((List.Sublist.refl _).append hclip).append (.refl _)).append (.refl _)).append
    (.refl _)).append (.refl _)).append (.refl _) |>.subperm

/-- The load nodes hold the locations in their order. -/
theorem reportsImages_of_bound {base g : Graph} {fs : List Footprint} {bs : List Binding}
    (hbound : base.Bound g fs bs) {images : List String}
    (hlocations : Stitch.locationBindings images ⊆ bs) {d : JobDetails}
    (hsources : d.imageSources = some images) (hsource : d.imageSource = none) :
    g.ReportsImages ((List.range' 1 images.length).map Stitch.loaderName) d := by
  have hd : d.sources = images := by simp [JobDetails.sources, hsources]
  have hrange : List.range' 1 images.length = (images.zipIdx 1).map Prod.snd := by simp
  have himages : images = (images.zipIdx 1).map Prod.fst := by simp
  refine ⟨?_, fun l hl => by simp [hsource] at hl⟩
  rw [hd, hrange]
  conv_rhs => rw [himages]
  simp only [List.map_map]
  refine List.map_congr_left fun e he => ?_
  exact hbound.value?_of_binds (.of_set (hlocations (List.mem_map_of_mem he)))

/-- The record of a Flux edit reports what its bindings put into the graph. -/
theorem fluxReports_of_bound {g : Graph} {e : Extent} {bs : List Binding}
    {images : List String} {model ratio : String}
    (hbound : start.graph.Bound g (s.footprint .flux e) bs) (hmode : s.mode = .edit)
    (hcount : images.length = e.images) (hsound : s.Sound .flux e.images l start)
    (hmodel : .loader s.modelLoader (fluxLoader model) "unet_name" model ∈ bs)
    (hsamples : s.Samples (r.fluxSampling c) bs)
    (hlocations : Stitch.locationBindings images ⊆ bs)
    (hprompts : s.promptBindings r.instruction "" ⊆ bs)
    {latent : String} (hlatent : s.latent = some latent)
    (hratio : Binds bs latent "aspect_ratio" (.str ratio))
    (hsize : Binds bs latent "mp_size_float" (.float c.settings.kontextMpSize))
    (hbatch : Binds bs latent "batch_size" (.ofUInt32 1)) :
    g.Reports s .flux e.images (r.fluxDetails c s images model ratio) where
  sampling := by
    refine hbound.reportsSampling hsound hsamples rfl rfl rfl ?_
    simp [fluxDetails]
  prompts := hbound.reportsPrompts hprompts rfl rfl
  model m hm := by
    obtain rfl : model = m := by simpa [fluxDetails] using hm
    exact hbound.fileNames_of_loader (fluxLoader_loads model) hmodel
  images := by
    rw [ModeSpec.loadNodes, if_pos ⟨hmode, rfl⟩, ← hcount]
    exact reportsImages_of_bound hbound hlocations rfl rfl
  size := by
    simp only [Graph.ReportsSize, hmode]
    exact ⟨latent, hlatent, hbound.holds hratio rfl rfl, hbound.holds hsize rfl rfl,
      hbound.holds_word hbatch⟩

theorem fluxPlan_delivers (r : EditRequest) (c : JobContext) :
    Delivers (r.fluxPlan c) fun p => ∃ family s l start,
      p.Follows (JobRequest.edit r).mode ((JobRequest.edit r).extent c) family s l start := by
  unfold fluxPlan
  apply Delivers.bind (.validation _)
  intro s hspec
  apply Delivers.bind (.validation _)
  intro _ hcount
  have hadmits : Mode.edit.admits .flux r.images.length := .inr ⟨rfl, rfl, checkCount_ok hcount⟩
  obtain ⟨l, start, hsound⟩ := exists_sound hspec hadmits
  have hmode : s.mode = .edit := (mem_modes_of_modeSpec hspec).2
  have hroles := hsound.roles
  simp only [ModeSpec.hasRoles, hmode, Bool.and_eq_true] at hroles
  obtain ⟨latent, hlatent⟩ := Option.isSome_iff_exists.1 hroles.2.1
  obtain ⟨vaeLoader, hvae⟩ := Option.isSome_iff_exists.1 hroles.2.2
  have hsuits := hsound.suits
  simp only [ModeSpec.suits, hmode, Bool.and_eq_true] at hsuits
  obtain ⟨⟨hfirst, hresizer⟩, hresult⟩ := hsuits
  apply Delivers.bind (r.validImages_delivers c)
  intro images himages
  apply Delivers.bind (.resource _)
  intro model hmodel
  apply Delivers.bind (.validation _)
  intro ratio hratio
  apply Delivers.bind (.internal ⟨vaeLoader, by rw [hvae]; rfl, rfl⟩)
  rintro _ rfl
  apply Delivers.bind (.internal ⟨_, hsound.graph, rfl⟩)
  rintro _ rfl
  obtain ⟨first, hfirst⟩ := Option.isSome_iff_exists.1 hfirst
  have hfind : l.graph.find? "load_image_1" = some first.node := by
    rw [Layout.find?_graph, hfirst]
    rfl
  apply Delivers.bind (.graph ⟨_, Graph.node_eq_ok_iff.2 hfind, rfl⟩)
  rintro _ rfl
  apply Delivers.bind (.graph (hsound.exists_samplerBindings _))
  intro samplers hsamplers
  apply Delivers.bind (.internal (s.exists_latentBindings .flux hlatent _ _ _))
  intro size hsize
  have hstart := hsound.start_eq_stitch ⟨hmode, rfl⟩
  rw [← Layout.contains_graph, hstart] at hresizer hresult
  have hfoot := fluxSubperm_footprint (e := (JobRequest.edit r).extent c) hmode rfl himages
    hsamplers.1 hsize.1 hvae c.settings model
    ((c.settings.vae.bind Text.nonBlank?).getD "ae.safetensors") r.instruction ""
    (OutputPath.stem c.settings.outputs.edits "EDIT" c.jobId r.suffix)
  have hstitch : s.stitchBindings .flux r.images.length l.graph =
      Stitch.bindings first.node r.images.length := by
    simp [ModeSpec.stitchBindings, hmode, hfind]
  refine .ok ⟨.flux, s, l, start, hspec, hsound, rfl, rfl, _, ?_, ?_, hfoot,
    fun g hbound => ?_⟩
  · simp only [JobRequest.extent, hstitch, List.append_assoc]
  · rw [hstart, JobRequest.extent, hstitch]
    exact Stitch.applyAll_bindings hfind hresizer hresult
  · obtain ⟨-, hratio', hmp, hbatch⟩ := hsize
    refine fluxReports_of_bound hbound hmode himages hsound (by simp)
      (hsamplers.2.mono ?_) ?_ ?_ hlatent (hratio'.mono ?_) (hmp.mono ?_) (hbatch.mono ?_)
    all_goals
      intro b hb
      simp [hb]

/-! ## Qwen edits -/

theorem family_of_qwenModel {settings : Settings} {m : Model} (h : qwenModel settings = .ok m) :
    m.family = .qwen := by
  have hnamed {filename : String} (hm : (if filename.isEmpty then .error (.noEditModel .qwen)
      else .ok { family := .qwen, filename, inferred := false } : Except ResourceError Model) =
        .ok m) : m.family = .qwen := by
    cases hempty : filename.isEmpty with
    | true => simp [hempty] at hm
    | false =>
      simp only [hempty] at hm
      cases hm
      rfl
  unfold qwenModel at h
  cases hconfigured : settings.qwen.model.bind Text.nonBlank? with
  | some configured =>
    simp only [hconfigured] at h
    cases hexplicit : Model.explicit? configured with
    | some named =>
      simp only [hexplicit] at h
      exact hnamed h
    | none =>
      simp only [hexplicit] at h
      exact hnamed h
  | none =>
    simp only [hconfigured] at h
    cases hmodel : selectedModel none settings with
    | error e => simp [hmodel] at h
    | ok model =>
      simp only [hmodel] at h
      by_cases hfamily : model.family = .qwen
      · rw [if_pos hfamily] at h
        cases h
        exact hfamily
      · rw [if_neg hfamily] at h
        cases h

/-- The record of a Qwen edit reports what its bindings put into the graph. -/
theorem qwenReports_of_bound {g : Graph} {e : Extent} {bs : List Binding} {image : String}
    {model : Model} (hbound : l.graph.Bound g (s.footprint .qwen e) bs) (hmode : s.mode = .edit)
    (hsound : s.Sound .qwen e.images l l)
    (hmodel : Binds bs s.modelLoader "ckpt_name" (.str model.filename))
    (hsamples : s.Samples (r.qwenSampling c) bs)
    (hprompts : s.promptBindings (Text.trim r.instruction) (qwenNegative c.settings) ⊆ bs)
    {load : String} (hload : s.loadImage = some load)
    (hlocation : Binds bs load "url_or_path" (.str image)) :
    g.Reports s .qwen e.images (r.qwenDetails c s [image] model) where
  sampling := by
    refine hbound.reportsSampling hsound hsamples rfl rfl rfl ?_
    simp [qwenDetails]
  prompts := hbound.reportsPrompts hprompts rfl rfl
  model m hm := by
    obtain rfl : model.filename = m := by simpa [qwenDetails] using hm
    have hsuits := hsound.suits
    simp only [ModeSpec.suits, hmode, Bool.and_eq_true] at hsuits
    have hnone : g.value? s.modelLoader "unet_name" = none := by
      rw [hbound.value? s.modelLoader "unet_name" fun f hf => by
        simpa using List.all_eq_true.1 hsuits.2 f ((s.footprint_sublist .qwen e).subset hf),
        Layout.value?_graph]
      simpa using hsuits.1
    simp [Graph.fileNames, hnone, hbound.value?_of_binds hmodel]
  images := by
    have hnodes : s.loadNodes .qwen e.images = [load] := by simp [ModeSpec.loadNodes, hload]
    rw [hnodes]
    exact hbound.reportsImages_single hlocation rfl (.inr rfl)
  size := by simp only [Graph.ReportsSize, hmode]

/-- The bindings of a Qwen edit stay within the footprint of its mode. -/
theorem qwenFootprints_eq {e : Extent} (hmode : s.mode = .edit)
    {lora samplers source : List Binding} (hlora : footprints lora = s.loraFootprint .qwen)
    (hsamplers : footprints samplers = s.samplerFootprint)
    (hsource : footprints source = s.imageFootprint) (filename positive negative : String)
    (style : ResolvedStyle) (stem : String) :
    footprints ([.set s.modelLoader "ckpt_name" (.str filename)] ++ lora ++ samplers ++ source ++
      s.promptBindings positive negative ++ s.styleBindings style ++ s.outputBindings stem) =
        s.footprint .qwen e := by
  have hfootprint : s.footprint .qwen e =
      Footprint.constants s.modelLoader ["ckpt_name"] ++ s.loraFootprint .qwen ++
        s.samplerFootprint ++ s.imageFootprint ++ s.promptFootprint ++ s.styleFootprint ++
        s.outputFootprint := by
    simp only [ModeSpec.footprint, hmode]
  have hloader : footprints [.set s.modelLoader "ckpt_name" (.str filename)] =
      Footprint.constants s.modelLoader ["ckpt_name"] := rfl
  rw [hfootprint]
  simp only [footprints_append, hloader, hlora, hsamplers, hsource,
    ModeSpec.footprints_promptBindings, ModeSpec.footprints_styleBindings,
    ModeSpec.footprints_outputBindings]

theorem qwenPlan_delivers (r : EditRequest) (c : JobContext) :
    Delivers (r.qwenPlan c) fun p => ∃ family s l start,
      p.Follows (JobRequest.edit r).mode ((JobRequest.edit r).extent c) family s l start := by
  unfold qwenPlan
  apply Delivers.bind (.validation _)
  intro s hspec
  apply Delivers.bind (.validation _)
  intro _ hcount
  have hone : r.images.length = 1 := by
    obtain ⟨hleast, hmost⟩ := checkCount_ok hcount
    omega
  obtain ⟨template, l, hsound⟩ := exists_sound hspec (.inl rfl)
  have hmode : s.mode = .edit := (mem_modes_of_modeSpec hspec).2
  obtain rfl : l = template := hsound.start_eq (by simp)
  have hroles := hsound.roles
  simp only [ModeSpec.hasRoles, hmode, Bool.and_eq_true] at hroles
  obtain ⟨load, hload⟩ := Option.isSome_iff_exists.1 hroles.2
  apply Delivers.bind (r.validImages_delivers c)
  intro images himages
  obtain ⟨image, rfl⟩ := List.length_eq_one_iff.1 (himages.trans hone)
  apply Delivers.bind (.resource _)
  intro model hmodel
  have hfamily := family_of_qwenModel hmodel
  apply Delivers.bind (.internal ⟨_, hsound.graph, rfl⟩)
  rintro _ rfl
  apply Delivers.bind (.internal hsound.exists_loraBindings)
  intro lora hlora
  apply Delivers.bind (.graph (hsound.exists_samplerBindings _))
  intro samplers hsamplers
  apply Delivers.bind (.internal (ModeSpec.exists_imageBindings hload image))
  intro source hsource
  have hextent : (JobRequest.edit r).extent c = { images := 1 } := by
    simp [JobRequest.extent, hone]
  rw [hextent]
  have hfoot := qwenFootprints_eq (e := { images := 1 }) hmode hlora hsamplers.1 hsource.1
  refine .ok ⟨.qwen, s, l, l, .ofTemplate hspec (by simp) hsound (by rw [← hfamily]; rfl) rfl
    (List.Perm.subperm (.of_eq (hfoot _ _ _ _ _))) fun g hbound => ?_⟩
  refine qwenReports_of_bound hbound hmode hsound (.of_set (by simp))
    (hsamplers.2.mono ?_) ?_ hload (hsource.2.mono ?_)
  all_goals
    intro b hb
    simp [hb]

theorem plan_delivers (r : EditRequest) (c : JobContext) :
    Delivers (r.plan c) fun p => ∃ family s l start,
      p.Follows (JobRequest.edit r).mode ((JobRequest.edit r).extent c) family s l start := by
  unfold plan
  apply Delivers.bind (.resource _)
  intro family hfamily
  cases family with
  | flux => exact r.fluxPlan_delivers c
  | qwen => exact r.qwenPlan_delivers c
  | wan => exact .reject rfl
  | sdxl => exact .reject rfl

theorem FluxPlanned.family_eq {p : Plan} (h : r.FluxPlanned c p) :
    p.details.family = some .flux := by
  obtain ⟨⟩ := h
  rfl

theorem QwenPlanned.family_eq {p : Plan} (h : r.QwenPlanned c p) :
    p.details.family = some .qwen := by
  obtain @⟨_, _, _, _, _, _, _, -, -, -, hmodel, -, -, -, -⟩ := h
  exact congrArg some (family_of_qwenModel hmodel)

end EditRequest

end Renderflow
