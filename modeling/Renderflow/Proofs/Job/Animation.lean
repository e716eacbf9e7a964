import Renderflow.Proofs.Job.Conform
import Mathlib.Data.List.Nodup

/-!
# Animations follow their mode

Most of what an animation binds is there only if the settings name it. The shift goes to all
nodes of some classes, which are known from the template alone.
-/

namespace Renderflow

namespace Graph

theorem mem_ofClass {g : Graph} {classType id : String} {n : Node} :
    (id, n) ∈ g.ofClass classType ↔ g.find? id = some n ∧ n.classType = classType := by
  simp [ofClass, Table.find?_eq_some_iff]

theorem nodup_ofClass (g : Graph) {classes : List String} (hclasses : classes.Nodup) :
    ((classes.flatMap g.ofClass).map Prod.fst).Nodup := by
  rw [List.map_flatMap, List.nodup_flatMap]
  refine ⟨fun classType _ => ?_, hclasses.imp fun hne id hid hid' => ?_⟩
  · exact (Table.nodup_keys g).sublist (List.filter_sublist.map _)
  · obtain ⟨⟨_, n⟩, hn, rfl⟩ := List.mem_map.1 hid
    obtain ⟨⟨_, n'⟩, hn', rfl⟩ := List.mem_map.1 hid'
    obtain ⟨hfind, hclass⟩ := mem_ofClass.1 hn
    obtain ⟨hfind', hclass'⟩ := mem_ofClass.1 hn'
    obtain rfl : n = n' := Option.some.inj (hfind.symm.trans hfind')
    exact hne (hclass.symm.trans hclass')

end Graph

namespace AnimationRequest

variable {s : ModeSpec} {family : Family} {l : Layout}

theorem footprints_highNoiseBindings {r : AnimationRequest} {settings : Settings}
    {bs : List Binding} (h : r.highNoiseBindings settings s = .ok bs) {e : Extent}
    (he : e.first = (r.highNoise? settings).isSome) : footprints bs = s.modelFootprint e := by
  unfold highNoiseBindings at h
  cases hm : r.highNoise? settings with
  | none =>
    simp only [hm] at h
    cases h
    simp [ModeSpec.modelFootprint, he, hm]
  | some m =>
    simp only [hm] at h
    exact ModeSpec.footprints_modelBindings h (by simp [he, hm])

theorem footprints_assetBindings (node : Option String) (input : String)
    (filename : Option String) : (footprints (assetBindings node input filename)).Sublist
      (node.toList.flatMap fun node => Footprint.constants node [input]) := by
  unfold assetBindings
  split
  · simp [Footprint.constants, Value.link?]
  · exact List.nil_sublist _

/-- The shift is written to nodes of the template that the footprint names. -/
theorem footprints_shiftBindings {images : Nat} {fs : List Footprint} (hmode : s.mode = .animation)
    (hsuits : s.suits family images fs l l) (shift : Option Float) :
    (footprints (Animation.shiftBindings l.graph shift)).Subperm ModeSpec.shiftFootprint := by
  have hsub : (Animation.shiftClasses.flatMap l.graph.ofClass).map Prod.fst ⊆
      ["wan_shift_high", "wan_shift_low"] := by
    intro id hid
    obtain ⟨⟨_, n⟩, hn, rfl⟩ := List.mem_map.1 hid
    obtain ⟨classType, hclasses, hclass⟩ := List.mem_flatMap.1 hn
    obtain ⟨hfind, rfl⟩ := Graph.mem_ofClass.1 hclass
    rw [Layout.find?_graph] at hfind
    obtain ⟨m, hm, rfl⟩ := Option.map_eq_some_iff.1 hfind
    simp only [ModeSpec.suits, hmode] at hsuits
    have hentry := List.all_eq_true.1 hsuits _ (Table.mem_of_last? hm)
    have hshift : m.classType ∈ Animation.shiftClasses := hclasses
    simpa [hshift] using hentry
  cases hshift : shift.filter Decimal.isFinite with
  | none =>
    simp only [Animation.shiftBindings, hshift]
    exact (List.nil_sublist _).subperm
  | some x =>
    have hfoot : footprints (Animation.shiftBindings l.graph shift) =
        ((Animation.shiftClasses.flatMap l.graph.ofClass).map Prod.fst).map
          fun id => .input id "shift" none := by
      simp [Animation.shiftBindings, hshift, footprints, Function.comp_def, Value.link?]
    rw [hfoot]
    exact (List.subperm_of_subset (l.graph.nodup_ofClass (by decide)) hsub).map
      fun a b hab => by simpa using hab

theorem footprints_videoBindings {video : String} (hvideo : s.latent = some video)
    (scene : Scene) : footprints (scene.bindings video) = s.videoFootprint := by
  simp [Scene.bindings, ModeSpec.videoFootprint, hvideo, Footprint.constants, Value.link?,
    Value.ofUInt32]

/-- The bindings of an animation stay within the footprint of its mode. -/
theorem subperm_footprint {r : AnimationRequest} {settings : Settings} {e : Extent}
    {images : Nat} {fs : List Footprint} (hmode : s.mode = .animation)
    (hsuits : s.suits .wan images fs l l)
    {first second image samplers : List Binding}
    (hfirst : r.highNoiseBindings settings s = .ok first)
    (hhigh : e.first = (r.highNoise? settings).isSome)
    (hsecond : s.secondaryBindings .wan (lowNoise? settings) = .ok second)
    (hlow : e.second = isConfigured (lowNoise? settings))
    (himage : footprints image = s.imageFootprint)
    (hsamplers : footprints samplers = s.samplerFootprint) {video : String}
    (hvideo : s.latent = some video) (scene : Scene) (clip visionClip vae : Option String)
    (positive negative : String) (shift : Option Float) (stem : String) :
    (footprints (first ++ second ++ assetBindings s.clipLoader "clip_name" clip ++
      assetBindings (some "wan_i2v_vision_clip") "clip_name" visionClip ++
      assetBindings s.vaeLoader "vae_name" vae ++ image ++ s.promptBindings positive negative ++
      samplers ++ scene.bindings video ++ Animation.shiftBindings l.graph shift ++
      s.outputBindings stem)).Subperm (s.footprint .wan e) := by
  have hfootprint : s.footprint .wan e =
      s.modelFootprint e ++ s.secondaryFootprint e ++ s.animationClipFootprint ++
        s.vaeFootprint ++ s.imageFootprint ++ s.promptFootprint ++ s.samplerFootprint ++
        s.videoFootprint ++ ModeSpec.shiftFootprint ++ s.outputFootprint := by
    simp only [ModeSpec.footprint, hmode]
  have hmodels := footprints_highNoiseBindings hfirst hhigh
  have hpair := ModeSpec.footprints_secondaryBindings hsecond hlow
  have hclip := footprints_assetBindings s.clipLoader "clip_name" clip
  have hvision := footprints_assetBindings (some "wan_i2v_vision_clip") "clip_name" visionClip
  have hvae := footprints_assetBindings s.vaeLoader "vae_name" vae
  rw [hfootprint]
  simp only [footprints_append, hmodels, himage, hsamplers, ModeSpec.footprints_promptBindings,
    footprints_videoBindings hvideo, ModeSpec.footprints_outputBindings,
    ModeSpec.animationClipFootprint, ← List.append_assoc]
  refine ((List.Sublist.subperm ?_).append
    (footprints_shiftBindings hmode hsuits shift)).append (List.Subperm.refl _)
  exact ((((((((List.Sublist.refl _).append hpair).append hclip).append hvision).append
    hvae).append (.refl _)).append (.refl _)).append (.refl _)).append (.refl _)

/-- The record of an animation reports what its bindings put into the graph. -/
theorem reports_of_bound {r : AnimationRequest} {c : JobContext} {reply : Option EnhancerReply}
    {g : Graph} {e : Extent} {bs first : List Binding}
    (hbound : l.graph.Bound g (s.footprint .wan e) bs) (hmode : s.mode = .animation)
    (hsound : s.Sound .wan e.images l l)
    (hfirst : r.highNoiseBindings c.settings s = .ok first) (hmodel : first ⊆ bs)
    (hsamples : s.Samples (r.sampling c) bs)
    (hprompts : s.promptBindings (r.boundPrompt c.settings reply) (r.negative c.settings) ⊆ bs)
    {load video : String} (hload : s.loadImage = some load)
    (hlocation : Binds bs load "url_or_path" (.str r.location))
    (hvideo : s.latent = some video) (hscene : (r.scene c.settings).bindings video ⊆ bs) :
    g.Reports s .wan e.images (r.details c reply s) where
  sampling := by
    refine hbound.reportsSampling hsound hsamples rfl rfl rfl ?_
    simp [details]
  prompts := hbound.reportsPrompts hprompts rfl rfl
  model m hm := by
    obtain ⟨model, hmodel', rfl⟩ := Option.map_eq_some_iff.1 hm
    simp only [highNoiseBindings, hmodel'] at hfirst
    obtain ⟨n, hloads, rfl⟩ := ModeSpec.modelBindings_ok hfirst
    exact hbound.fileNames_of_loader hloads (hmodel List.mem_cons_self)
  images := by
    have hnodes : s.loadNodes .wan e.images = [load] := by simp [ModeSpec.loadNodes, hmode, hload]
    rw [hnodes]
    exact hbound.reportsImages_single hlocation rfl (.inl rfl)
  size := by
    simp only [Graph.ReportsSize, hmode]
    refine ⟨video, hvideo, hbound.holds_word (.of_set (hscene ?_)),
      hbound.holds_word (.of_set (hscene ?_)), hbound.holds_word (.of_set (hscene ?_))⟩
    all_goals simp [Scene.bindings]

theorem plan_delivers (r : AnimationRequest) (c : JobContext) (reply : Option EnhancerReply) :
    Delivers (r.plan c reply) fun p => ∃ family s l start,
      p.Follows (JobRequest.animation r).mode ((JobRequest.animation r).extent c) family s l
        start := by
  unfold plan
  apply Delivers.bind (.validation _)
  intro s hspec
  obtain ⟨template, l, hsound⟩ := exists_sound hspec (.inl rfl)
  have hmode : s.mode = .animation := (mem_modes_of_modeSpec hspec).2
  obtain rfl : l = template := hsound.start_eq (by simp [hmode])
  have hroles := hsound.roles
  simp only [ModeSpec.hasRoles, hmode, Bool.and_eq_true] at hroles
  obtain ⟨video, hvideo⟩ := Option.isSome_iff_exists.1 hroles.2.1.1
  obtain ⟨load, hload⟩ := Option.isSome_iff_exists.1 hroles.2.1.2
  apply Delivers.bind (.internal ⟨video, by rw [hvideo]; rfl, rfl⟩)
  rintro _ rfl
  apply Delivers.bind (.internal ⟨_, hsound.graph, rfl⟩)
  rintro _ rfl
  apply Delivers.bind (.resource _)
  intro first hfirst
  apply Delivers.bind (.resource _)
  intro second hsecond
  apply Delivers.bind (.internal (ModeSpec.exists_imageBindings hload r.location))
  intro image himage
  apply Delivers.bind (.graph (hsound.exists_samplerBindings _))
  intro samplers hsamplers
  have hfoot := subperm_footprint (e := (JobRequest.animation r).extent c) hmode hsound.suits
    hfirst rfl hsecond rfl himage.1 hsamplers.1 hvideo (r.scene c.settings)
  refine .ok ⟨.wan, s, l, l, .ofTemplate hspec (by simp [hmode]) hsound rfl rfl
    (hfoot _ _ _ _ _ _ _) fun g hbound => ?_⟩
  refine reports_of_bound hbound hmode hsound hfirst ?_ (hsamplers.2.mono ?_) ?_ hload
    (himage.2.mono ?_) hvideo ?_
  all_goals
    intro b hb
    simp [hb]

end AnimationRequest

end Renderflow
