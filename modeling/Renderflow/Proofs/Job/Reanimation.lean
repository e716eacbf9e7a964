import Renderflow.Proofs.Job.Family
import Renderflow.Proofs.Job.Ids
import Renderflow.Proofs.Job.Scene
import Renderflow.Proofs.Job.Twins

/-!
# Animating an animation again

The record of an animation, taken as the source of another one, settles what it was settled to: the
motion, the size, the length, the negative prompt and the models. The image, the caption, the seed
and the id may be others.
-/

namespace Renderflow

open Animation

namespace ModeSpec

/-- The inputs of an animation that depend on its image, its caption, its seed and its id. -/
def freePlaces (s : ModeSpec) : List (String × String) :=
  s.loadImage.toList.map (·, "url_or_path") ++ [(s.positivePrompt, "text")] ++
    s.samplers.map (·, s.seedName) ++ [(s.save, "filename_prefix")]

/-- The nodes with the models of an animation, and those that shift its sampling. -/
def modelNodes (s : ModeSpec) (template : Graph) : List String :=
  [s.modelLoader, "wan_i2v_vision_clip"] ++ s.secondaryLoader.toList ++ s.clipLoader.toList ++
    s.vaeLoader.toList ++ (shiftClasses.flatMap template.ofClass).map Prod.fst

theorem modelNodes_animation : Catalog.Wan.animation.modelNodes Template.Wan.animation.graph =
    ["wan_unet_high", "wan_i2v_vision_clip", "wan_unet_low", "wan_clip", "wan_vae",
      "wan_shift_high", "wan_shift_low"] := by
  decide +kernel

/-- The places that depend on the image, the caption, the seed and the id are none of those of the
video, of the negative prompt and of the models. -/
structure Steady (s : ModeSpec) (template : Graph) : Prop where
  seeds : ∀ node ∈ s.samplers, ∀ input, seedInput template node = .ok input →
    (node, input) ∈ s.freePlaces
  video : ∃ video, s.latent = some video ∧
    ∀ input ∈ ["width", "height", "length"], (video, input) ∉ s.freePlaces
  negative : ∃ node, s.negativePrompt = some node ∧ (node, "text") ∉ s.freePlaces
  models : ∀ node ∈ s.modelNodes template, node ∉ s.freePlaces.map Prod.fst ∧ node ∈ s.nodes

theorem steady_animation {s : ModeSpec} {template : Graph}
    (hspec : modeSpec .wan .animation = .ok s) (htemplate : s.graph = .ok template) :
    s.Steady template := by
  obtain ⟨l, _, hsound⟩ := exists_sound hspec (.inl rfl)
  obtain rfl : l.graph = template := Except.ok.inj (hsound.graph.symm.trans htemplate)
  have hseeds : ∀ node ∈ s.samplers, ∀ input, seedInput l.graph node = .ok input →
      (node, input) ∈ s.freePlaces := by
    intro node hnode input hinput
    have hname := seedInput_graph (hsound.seeds node hnode).1
    obtain rfl : s.seedName = input := Except.ok.inj (hname.symm.trans hinput)
    simp [freePlaces, hnode]
  obtain rfl : Catalog.Wan.animation = s := Except.ok.inj hspec
  have hgraph : Template.Wan.animation.graph = l.graph := Except.ok.inj htemplate
  refine ⟨hseeds, ⟨_, rfl, by decide⟩, ⟨_, rfl, by decide⟩, ?_⟩
  rw [← hgraph, modelNodes_animation]
  decide

end ModeSpec

/-- The records of two animations of one scene. They have one motion, one size, one length, one
negative prompt and one model, and differ in what depends on their images, their captions, their
seeds and their ids. -/
def JobDetails.SameScene (d d' : JobDetails) : Prop :=
  d' = { d with
    jobId := d'.jobId
    prompt := d'.prompt
    originalPrompt := d'.originalPrompt
    enhancedPrompt := d'.enhancedPrompt
    animationPrompt := d'.animationPrompt
    seed := d'.seed
    imageSource := d'.imageSource
    sourceJobId := d'.sourceJobId
    enhancerUsed := d'.enhancerUsed
    enhancerError := d'.enhancerError
    parametersUsed := d'.parametersUsed }

theorem JobDetails.SameScene.recorded {d d' : JobDetails} (h : d.SameScene d') :
    d'.motionProfile = d.motionProfile ∧ d'.animationResolution = d.animationResolution ∧
      d'.animationFrames = d.animationFrames ∧ d'.modelUsed = d.modelUsed := by
  unfold SameScene at h
  rw [h]
  exact ⟨rfl, rfl, rfl, rfl⟩

theorem JobDetails.SameScene.withNotes {d d' : JobDetails} (h : d.SameScene d')
    (notes notes' : Table Json) :
    JobDetails.SameScene { d with parametersUsed := notes }
      { d' with parametersUsed := notes' } := by
  unfold SameScene at h ⊢
  exact congrArg (fun e : JobDetails => { e with parametersUsed := notes' }) h

namespace AnimationRequest

variable {r r' : AnimationRequest} {c c' : JobContext} {reply : Option EnhancerReply} {s : ModeSpec}

theorem Planned.exists_spec {p : Plan} (h : r.Planned c reply p) :
    ∃ s, modeSpec .wan .animation = .ok s ∧ s.graph = .ok p.template ∧
      p.details = r.details c reply s := by
  obtain @⟨s, _, _, _, _, _, _, hspec, _, htemplate, _⟩ := h
  exact ⟨s, hspec, htemplate, rfl⟩

/-! ## Animations that settle alike -/

/-- Two animations with one motion, one size, one length, one negative prompt and one model. The
prompts of their still images may differ. -/
structure SettlesAs (r r' : AnimationRequest) (settings : Settings) : Prop where
  scene : ∃ still, r'.scene settings = { r.scene settings with still }
  negative : r'.negative settings = r.negative settings
  model : r'.highNoise? settings = r.highNoise? settings

open Binding.Twins in
/-- Animations that settle alike are planned alike, but for the places that depend on their images,
their captions, their seeds and their ids. -/
theorem SettlesAs.exists_planned {p : Plan} (h : r.SettlesAs r' c.settings)
    (hp : r.Planned c reply p) (hspec : modeSpec .wan .animation = .ok s)
    (hsettings : c'.settings = c.settings) (reply' : Option EnhancerReply) :
    ∃ p', r'.Planned c' reply' p' ∧ p.Twins s.freePlaces p' := by
  obtain @⟨s', video, template, first, second, load, samplers, hspec', hvideo, htemplate, hfirst,
    hsecond, himage, hsamplers⟩ := hp
  obtain rfl : s' = s := Except.ok.inj (hspec'.symm.trans hspec)
  have hscene : (r'.scene c.settings).bindings video = (r.scene c.settings).bindings video := by
    obtain ⟨still, hstill⟩ := h.scene
    rw [hstill]
    rfl
  have hfirst' : r'.highNoiseBindings c'.settings s' = .ok first := by
    rw [← hfirst, highNoiseBindings, highNoiseBindings, hsettings, h.model]
  have hsampling : r'.sampling c' = { r.sampling c with seed := r'.seed.getD c'.freshSeed } := by
    simp only [sampling, hsettings]
  have hload : ∀ node, s'.loadImage = some node → (node, "url_or_path") ∈ s'.freePlaces :=
    fun node hnode => by simp [ModeSpec.freePlaces, hnode]
  have hprompt : (s'.positivePrompt, "text") ∈ s'.freePlaces := by simp [ModeSpec.freePlaces]
  have hsave : (s'.save, "filename_prefix") ∈ s'.freePlaces := by simp [ModeSpec.freePlaces]
  obtain ⟨load', hload', hloads⟩ := ModeSpec.twins_imageBindings hload himage r'.location
  obtain ⟨samplers', hsamplers', hseeds⟩ := ModeSpec.twins_samplerBindings
    (ModeSpec.steady_animation hspec htemplate).seeds hsamplers (r'.seed.getD c'.freshSeed)
  have hplanned : r'.Planned c' reply' _ := .intro hspec hvideo htemplate hfirst'
    (hsettings ▸ hsecond) hload' (hsampling ▸ hsamplers')
  refine ⟨_, hplanned, rfl, ?_⟩
  -- only the image, the prompt, the seeds and the path of the files are bound to other values
  simp only [hsettings, hscene, h.negative]
  exact append (append_same (append_same (append (append (append (refl_all _) hloads)
    (ModeSpec.twins_promptBindings hprompt _ _ _)) hseeds) _) _)
    (ModeSpec.twins_outputBindings hsave _ _)

/-- Animations that settle alike, with one style and one selected model, are recorded alike, but for
what depends on their images, their captions, their seeds and their ids. -/
theorem SettlesAs.sameScene_details (h : r.SettlesAs r' c.settings)
    (hsettings : c'.settings = c.settings)
    (hstyle : r'.source.style.or (some "off") = r.source.style.or (some "off"))
    (hselected : r'.source.selectedModel = r.source.selectedModel)
    (reply' : Option EnhancerReply) :
    (r.details c reply s).SameScene (r'.details c' reply' s) := by
  obtain ⟨still, hscene⟩ := h.scene
  simp only [JobDetails.SameScene, details, sampling, Scene.resolution, hsettings, hscene,
    h.negative, h.model, hstyle, hselected]

/-! ## The record of an animation as a source -/

/-- The request that leaves to its source all that it can. -/
def follow (d : JobDetails) (image : String) (seed : Option Int64) : AnimationRequest :=
  { source := d, image, seed }

theorem settlesAs_follow (hspec : modeSpec .wan .animation = .ok s) (c : JobContext)
    (reply : Option EnhancerReply) (notes : Table Json) (image : String) (seed : Option Int64) :
    r.SettlesAs (follow { r.details c reply s with parametersUsed := notes } image seed)
      c.settings where
  scene := ⟨_, scene_of_isSettled (r.isSettled_scene c.settings) rfl rfl rfl rfl rfl rfl c.settings⟩
  negative := by
    obtain rfl : Catalog.Wan.animation = s := Except.ok.inj hspec
    exact negative_of_recorded rfl
  model := highNoise?_of_recorded rfl rfl

end AnimationRequest

/-- Two animations of one scene with one set of models. They may differ in their images, their
captions, their seeds and their ids, and in what their records say about them. -/
structure Compiled.SameScene (s : ModeSpec) (template : Graph) (x x' : Compiled) : Prop where
  agree : x.AgreeExcept s.freePlaces x'
  size : ∃ video, s.latent = some video ∧ ∀ input ∈ ["width", "height", "length"],
    ∃ v, x.graph.value? video input = some v ∧ x'.graph.value? video input = some v
  negative : ∃ node, s.negativePrompt = some node ∧
    ∃ v, x.graph.value? node "text" = some v ∧ x'.graph.value? node "text" = some v
  models : ∀ node ∈ s.modelNodes template,
    ∃ n, x.graph.find? node = some n ∧ x'.graph.find? node = some n
  details : x.details.SameScene x'.details

namespace AnimationRequest

variable {r : AnimationRequest} {c c' : JobContext} {reply : Option EnhancerReply} {s : ModeSpec}
  {template : Graph} {x x' : Compiled}

/-- An animation has a size, a negative prompt and models, and what agrees with it has the same. -/
theorem sameScene_of_agreeExcept (h : (JobRequest.animation r).compile c reply = .ok x)
    (hspec : modeSpec .wan .animation = .ok s) (htemplate : s.graph = .ok template)
    (hagree : x.AgreeExcept s.freePlaces x') (hdetails : x.details.SameScene x'.details) :
    x.SameScene s template x' := by
  obtain ⟨s', _, _, hconforms⟩ := JobRequest.conforms_of_compile (r := .animation r) rfl h
  obtain rfl : s = s' := Except.ok.inj (hspec.symm.trans hconforms.spec)
  obtain ⟨_, hbound⟩ := hconforms.bound
  have hwired := hconforms.sound.wired.congr hbound.wiring
  have hsteady := ModeSpec.steady_animation hspec htemplate
  have hsame : ∀ node input, (node, input) ∉ s.freePlaces →
      (∃ v, x.graph.value? node input = some v) →
      ∃ v, x.graph.value? node input = some v ∧ x'.graph.value? node input = some v := by
    rintro node input hout ⟨v, hv⟩
    exact ⟨v, hv, by rw [hagree.graph.value? node input hout, hv]⟩
  refine ⟨hagree, ?size, ?negative, fun node hnode => ?models, hdetails⟩
  case size =>
    obtain ⟨video, hvideo, hfree⟩ := hsteady.video
    have hsize := hconforms.reports.size
    simp only [Graph.ReportsSize, (mem_modes_of_modeSpec hspec).2] at hsize
    obtain ⟨video', hvideo', ⟨w, _, hwidth, -⟩, ⟨t, _, hheight, -⟩, ⟨n, _, hlength, -⟩⟩ := hsize
    obtain rfl : video = video' := Option.some.inj (hvideo.symm.trans hvideo')
    refine ⟨video, hvideo, fun input hinput => hsame video input (hfree input hinput) ?_⟩
    simp only [List.mem_cons, List.not_mem_nil, or_false] at hinput
    obtain rfl | rfl | rfl := hinput
    exacts [⟨w, hwidth⟩, ⟨t, hheight⟩, ⟨n, hlength⟩]
  case negative =>
    obtain ⟨node, hnode, hfree⟩ := hsteady.negative
    obtain ⟨v, _, hv, -⟩ := hconforms.reports.prompts.negative node hnode
    exact ⟨node, hnode, hsame node "text" hfree ⟨v, hv⟩⟩
  case models =>
    obtain ⟨hfree, hmem⟩ := hsteady.models node hnode
    have hkey := (hwired.nodes node).2 (List.mem_append_left _ hmem)
    obtain ⟨n, hn⟩ := Table.contains_iff.1 (Table.mem_keys.1 hkey)
    exact ⟨n, hn, by rw [hagree.graph.find?_eq hfree, hn]⟩

/-- Animating an animation again is a fixed point. A request that takes the record of one as its
source and leaves the motion, the size and the length to it is compiled in the same settings,
whatever its image, its seed and the service that writes captions, and to the same scene. -/
theorem compile_follow (h : r.compile c reply = .ok x) (hsettings : c'.settings = c.settings)
    (image : String) (seed : Option Int64) (reply' : Option EnhancerReply) :
    ∃ s template x', modeSpec .wan .animation = .ok s ∧ s.graph = .ok template ∧
      (follow x.details image seed).compile c' reply' = .ok x' ∧ x.SameScene s template x' := by
  obtain ⟨p, hp, hx⟩ := bind_eq_ok_iff.1 h
  have hplanned := plan_eq_ok_iff.1 hp
  obtain ⟨s, hspec, htemplate, hdetails⟩ := hplanned.exists_spec
  have hrecord := (Plan.details_of_compile hx).1
  rw [hdetails] at hrecord
  -- what the first run has recorded settles the second one
  have hsettles : r.SettlesAs (follow x.details image seed) c.settings := by
    rw [hrecord]
    exact settlesAs_follow hspec c reply _ image seed
  obtain ⟨p', hplanned', htwins⟩ := hsettles.exists_planned hplanned hspec hsettings reply'
  have hp' := plan_eq_ok_iff.2 hplanned'
  obtain ⟨_, _, _, _, hfollows⟩ := (plan_delivers _ c' reply').value p' hp'
  obtain ⟨x', hx', -⟩ := hfollows.exists_compile
  have hrecord' := (Plan.details_of_compile hx').1
  obtain ⟨s', hspec', -, hdetails'⟩ := hplanned'.exists_spec
  obtain rfl : s = s' := Except.ok.inj (hspec.symm.trans hspec')
  refine ⟨s, p.template, x', hspec, htemplate, bind_eq_ok_iff.2 ⟨p', hp', hx'⟩,
    sameScene_of_agreeExcept h hspec htemplate (htwins.compile hx hx') ?_⟩
  have hstyle : (follow x.details image seed).source.style.or (some "off") =
      r.source.style.or (some "off") := by
    rw [hrecord]
    exact (Option.or_assoc ..).trans (congrArg _ Option.or_self)
  have hselected : (follow x.details image seed).source.selectedModel = r.source.selectedModel := by
    rw [hrecord]
    rfl
  rw [hrecord', hdetails', hrecord]
  rw [hrecord] at hsettles hstyle hselected
  exact (hsettles.sameScene_details hsettings hstyle hselected reply').withNotes _ _

/-- A lively animation that asks for less than the least height. -/
def livelyAnimation : AnimationRequest where
  image := "a.png"
  motionProfile := some " High "
  resolution := some "640x32"
  frames := some 49

/-- It is animated again, with another image, another seed and a service that is offline. -/
theorem compile_follow_lively :
    ∃ x s template x', livelyAnimation.compile JobRequest.sampleContext none = .ok x ∧
      modeSpec .wan .animation = .ok s ∧ s.graph = .ok template ∧
      (follow x.details "b.png" (some 7)).compile
        { JobRequest.sampleContext with jobId := "again" }
        (some { delay := 1.0, answer := .error ["offline"] }) = .ok x' ∧
      x.SameScene s template x' ∧ x'.details.motionProfile = some "high" ∧
      x'.details.animationResolution = some "640x64" ∧ x'.details.animationFrames = some 49 := by
  obtain ⟨x, hx⟩ := JobRequest.exists_compile_of_plan (.animation livelyAnimation)
    JobRequest.sampleContext none (by decide +kernel)
  have hcompile : livelyAnimation.compile JobRequest.sampleContext none = .ok x := hx
  have hsettings : { JobRequest.sampleContext with jobId := "again" : JobContext }.settings =
      JobRequest.sampleContext.settings := rfl
  obtain ⟨s, template, x', hspec, htemplate, hx', hsame⟩ := compile_follow hcompile hsettings
    "b.png" (some 7) (some { delay := 1.0, answer := .error ["offline"] })
  obtain ⟨p, hp, hbound⟩ := bind_eq_ok_iff.1 hcompile
  obtain ⟨_, -, -, hplanned⟩ := (plan_eq_ok_iff.1 hp).exists_spec
  have hrecord := (Plan.details_of_compile hbound).1
  rw [hplanned] at hrecord
  have hscene : (livelyAnimation.scene JobRequest.sampleContext.settings).profile = "high" ∧
      (livelyAnimation.scene JobRequest.sampleContext.settings).resolution = "640x64" ∧
      (livelyAnimation.scene JobRequest.sampleContext.settings).frames = 49 := by
    decide
  obtain ⟨hprofile, hresolution, hframes, -⟩ := hsame.details.recorded
  rw [hrecord] at hprofile hresolution hframes
  exact ⟨x, s, template, x', hcompile, hspec, htemplate, hx', hsame,
    hprofile.trans (congrArg some hscene.1), hresolution.trans (congrArg some hscene.2.1),
    hframes.trans (congrArg some hscene.2.2)⟩

end AnimationRequest

end Renderflow
