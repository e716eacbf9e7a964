import Renderflow.Job.Variation
import Renderflow.Proofs.Job.Generation

/-!
# Variations follow their modes

A variation binds what a generation from an image binds, with a prompt that may be the one
of its source.
-/

namespace Renderflow

namespace VariationRequest

/-- The record of a variation reports what its bindings put into the graph. -/
theorem reports_of_bound {r : VariationRequest} {c : JobContext} {model : Model} {s : ModeSpec}
    {style : ResolvedStyle} {l : Layout} {g : Graph} {e : Extent} {bs : List Binding}
    (hbound : l.graph.Bound g (s.footprint model.family e) bs) (hmode : s.mode = r.strength.mode)
    (hsound : s.Sound model.family e.images l l)
    {n : Node} (hloads : n.Loads model.filename)
    (hmodel : .loader s.modelLoader n "model" model.filename ∈ bs)
    (hsamples : s.Samples (r.sampling c model.family) bs)
    (hprompts : s.promptBindings r.boundPrompt (r.negative c model.family) ⊆ bs)
    {load : String} (hload : s.loadImage = some load)
    (hlocation : Binds bs load "url_or_path" (.str r.location)) :
    g.Reports s model.family e.images (r.details c model s style) where
  sampling := by
    refine hbound.reportsSampling hsound hsamples rfl rfl rfl ?_
    simp [details]
  prompts := hbound.reportsPrompts hprompts rfl rfl
  model m hm := by
    obtain rfl : model.filename = m := by simpa [details] using hm
    exact hbound.fileNames_of_loader hloads hmodel
  images := by
    have hnodes : s.loadNodes model.family e.images = [load] := by
      cases hstrength : r.strength <;>
        simp [ModeSpec.loadNodes, hmode, hstrength, VariationStrength.mode, hload]
    rw [hnodes]
    exact hbound.reportsImages_single hlocation rfl (.inl rfl)
  size := by
    cases hstrength : r.strength <;>
      simp only [Graph.ReportsSize, hmode, hstrength, VariationStrength.mode]

theorem plan_delivers (r : VariationRequest) (c : JobContext) :
    Delivers (r.plan c) fun p => ∃ family s l start,
      p.Follows (JobRequest.variation r).mode ((JobRequest.variation r).extent c) family s l
        start := by
  unfold plan
  apply Delivers.bind (.resource _)
  intro model hmodel
  apply Delivers.bind (.validation _)
  intro s hspec
  apply Delivers.bind (.validation _)
  intro style hstyle
  obtain ⟨template, l, hsound⟩ := exists_sound hspec (.inl rfl)
  have hmode : s.mode = r.strength.mode := (mem_modes_of_modeSpec hspec).2
  have hrendering : s.mode ≠ .upscale ∧ s.mode ≠ .edit ∧ s.mode ≠ .animation := by
    rw [hmode]
    cases r.strength <;> simp [VariationStrength.mode]
  obtain rfl : l = template := hsound.start_eq fun h => hrendering.2.1 h.1
  apply Delivers.bind (.internal ⟨_, hsound.graph, rfl⟩)
  rintro _ rfl
  apply Delivers.bind (.resource _)
  intro loaders hloaders
  apply Delivers.bind (.resource _)
  intro second hsecond
  apply Delivers.bind (.internal hsound.exists_loraBindings)
  intro lora hlora
  apply Delivers.bind (.graph (hsound.exists_samplerBindings _))
  intro samplers hsamplers
  have hload : s.loadImage.isSome := by
    have hroles := hsound.roles
    cases hstrength : r.strength <;>
      simp [ModeSpec.hasRoles, hmode, hstrength, VariationStrength.mode] at hroles
    all_goals exact hroles.2
  obtain ⟨load, hload⟩ := Option.isSome_iff_exists.1 hload
  apply Delivers.bind (.internal (ModeSpec.exists_imageBindings hload r.location))
  intro image himage
  have hsource : (footprints image).Sublist (s.latentFootprint ++ s.imageFootprint) := by
    rw [himage.1]
    exact List.sublist_append_right _ _
  obtain ⟨n, hloads, hloader⟩ := ModeSpec.modelBindings_ok hloaders
  refine .ok ⟨model.family, s, l, l, .ofTemplate hspec (fun h => hrendering.2.1 h.1) hsound rfl rfl
    (ModeSpec.subperm_footprint_of_rendering hrendering hloaders rfl hsecond rfl hlora
      hsamplers.1 hsource _ _ _ _ _) fun g hbound => ?_⟩
  refine reports_of_bound hbound hmode hsound hloads ?_ (hsamplers.2.mono ?_) ?_ hload
    (himage.2.mono ?_)
  · simp [hloader]
  all_goals
    intro b hb
    simp [hb]

end VariationRequest

end Renderflow
