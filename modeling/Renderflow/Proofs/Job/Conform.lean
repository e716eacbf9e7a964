import Renderflow.Job.Request
import Renderflow.Proofs.Job.Report

/-!
# Jobs that conform to their mode

A plan follows a mode of the catalog when its bindings stay within the footprint of the mode
and its record reports what they bind. What is compiled of such a plan conforms to the mode.
-/

namespace Renderflow

theorem ModeSpec.Sound.graph {s : ModeSpec} {family : Family} {images : Nat} {l start : Layout}
    (h : s.Sound family images l start) : s.graph = .ok l.graph := by
  simp [ModeSpec.graph, Template.find?, h.template]

/-- A job without additions starts from its template. -/
theorem ModeSpec.Sound.start_eq {s : ModeSpec} {family : Family} {images : Nat}
    {l start : Layout} (h : s.Sound family images l start)
    (hmode : ¬ (s.mode = .edit ∧ family = .flux)) : start = l := by
  have hstart := h.start
  rw [ModeSpec.layout?, h.template, Option.map_some, if_neg hmode] at hstart
  exact (Option.some.inj hstart).symm

/-- A Flux edit starts from the stitched layout. -/
theorem ModeSpec.Sound.start_eq_stitch {s : ModeSpec} {family : Family} {images : Nat}
    {l start : Layout} (h : s.Sound family images l start)
    (hmode : s.mode = .edit ∧ family = .flux) : start = Stitch.layout l images := by
  have hstart := h.start
  rw [ModeSpec.layout?, h.template, Option.map_some, if_pos hmode] at hstart
  exact (Option.some.inj hstart).symm

/-- A job starts from the values of its template, but for what a stitching writes. -/
theorem ModeSpec.Sound.value?_start {s : ModeSpec} {family : Family} {images : Nat}
    {l start : Layout} (h : s.Sound family images l start) {id name : String}
    (hout : ∀ f ∈ s.stitchFootprint family images, ¬ f.Covers id name) :
    start.graph.value? id name = l.graph.value? id name := by
  by_cases hstitch : s.mode = .edit ∧ family = .flux
  · rw [h.start_eq_stitch hstitch]
    rw [ModeSpec.stitchFootprint, if_pos hstitch] at hout
    exact Stitch.value?_layout hout
  · rw [h.start_eq hstitch]

theorem ModeSpec.Sound.label?_start {s : ModeSpec} {family : Family} {images : Nat}
    {l start : Layout} (h : s.Sound family images l start) {id : String}
    (hout : ∀ f ∈ s.stitchFootprint family images, ¬ f.CoversNode id) :
    start.graph.label? id = l.graph.label? id := by
  by_cases hstitch : s.mode = .edit ∧ family = .flux
  · rw [h.start_eq_stitch hstitch]
    rw [ModeSpec.stitchFootprint, if_pos hstitch] at hout
    exact Stitch.label?_layout hout
  · rw [h.start_eq hstitch]

/-- The name of a file that is set, and not blank. -/
def isConfigured (filename : Option String) : Bool :=
  (filename.bind Text.nonBlank?).isSome

namespace JobRequest

/-- The mode that a request asks for. -/
def mode : JobRequest → Mode
  | generation r => if (r.image.bind Text.nonBlank?).isSome then .img2img else .txt2img
  | variation r => r.strength.mode
  | upscale _ => .upscale
  | edit _ => .edit
  | animation _ => .animation

/-- How many images a job shows and which loaders it replaces. -/
def extent (c : JobContext) : JobRequest → Extent
  | generation _ | variation _ => { images := 1, second := isConfigured c.settings.wanLowNoiseUnet }
  | upscale _ => { images := 1 }
  | edit r => { images := r.images.length }
  | animation r =>
    { images := 1
      first := (r.highNoise? c.settings).isSome
      second := isConfigured (AnimationRequest.lowNoise? c.settings) }

end JobRequest

/-- The bindings with which a Flux edit stitches its images. -/
def ModeSpec.stitchBindings (s : ModeSpec) (family : Family) (images : Nat) (template : Graph) :
    List Binding :=
  if s.mode = .edit ∧ family = .flux then
    (template.find? "load_image_1").toList.flatMap fun first => Stitch.bindings first images
  else []

/-- The record of a job does not tell about the stitching. -/
theorem ModeSpec.note_stitchBindings {s : ModeSpec} {family : Family} {images : Nat}
    {template : Graph} : ∀ b ∈ s.stitchBindings family images template, b.note = none := by
  unfold stitchBindings
  split
  · simp only [List.mem_flatMap]
    rintro b ⟨first, -, hb⟩
    exact Stitch.note_bindings b hb
  · simp

/-- A plan for a mode of the catalog. -/
structure Plan.Follows (p : Plan) (mode : Mode) (e : Extent) (family : Family) (s : ModeSpec)
    (l start : Layout) : Prop where
  spec : modeSpec family mode = .ok s
  sound : s.Sound family e.images l start
  ofFamily : p.details.family = some family
  template : p.template = l.graph
  bindings : ∃ bs, p.bindings = s.stitchBindings family e.images l.graph ++ bs ∧
    l.graph.applyAll ((s.stitchBindings family e.images l.graph).map (·.edit)) = .ok start.graph ∧
    (footprints bs).Subperm (s.footprint family e) ∧
    ∀ g, start.graph.Bound g (s.footprint family e) bs →
      g.Reports s family e.images p.details

/-- A compiled job of a mode of the catalog. -/
structure Compiled.Conforms (x : Compiled) (mode : Mode) (e : Extent) (family : Family)
    (s : ModeSpec) (l start : Layout) : Prop where
  spec : modeSpec family mode = .ok s
  sound : s.Sound family e.images l start
  ofFamily : x.details.family = some family
  bound : ∃ bs, start.graph.Bound x.graph (s.footprint family e) bs
  reports : x.graph.Reports s family e.images x.details

/-- A plan all of whose bindings stay within the footprint. -/
theorem Plan.Follows.ofTemplate {p : Plan} {mode : Mode} {e : Extent} {family : Family}
    {s : ModeSpec} {l : Layout} (hspec : modeSpec family mode = .ok s)
    (hmode : ¬ (s.mode = .edit ∧ family = .flux)) (hsound : s.Sound family e.images l l)
    (hfamily : p.details.family = some family) (htemplate : p.template = l.graph)
    (hfoot : (footprints p.bindings).Subperm (s.footprint family e))
    (hreports : ∀ g, l.graph.Bound g (s.footprint family e) p.bindings →
      g.Reports s family e.images p.details) : p.Follows mode e family s l l := by
  have hstitch : s.stitchBindings family e.images l.graph = [] := if_neg hmode
  refine ⟨hspec, hsound, hfamily, htemplate, p.bindings, ?_, ?_, hfoot, hreports⟩
  · rw [hstitch, List.nil_append]
  · rw [hstitch]
    rfl

/-- The bindings of a plan that follows its mode apply to what its job starts from, and leave
there what the record reports. -/
theorem Plan.Follows.exists_applyAll {p : Plan} {mode : Mode} {e : Extent} {family : Family}
    {s : ModeSpec} {l start : Layout} (h : p.Follows mode e family s l start) :
    ∃ bs g, p.bindings = s.stitchBindings family e.images l.graph ++ bs ∧
      p.template.applyAll (p.bindings.map (·.edit)) = .ok g ∧
      start.graph.applyAll (bs.map (·.edit)) = .ok g ∧
      start.graph.Bound g (s.footprint family e) bs ∧ g.Reports s family e.images p.details := by
  obtain ⟨bs, hbindings, hbefore, hfoot, hreports⟩ := h.bindings
  have hsub := s.footprint_sublist family e
  have hfits : ∀ f ∈ s.footprint family e, f.Fits start.graph := fun f hf =>
    h.sound.fits f (hsub.subset hf)
  obtain ⟨g, hg, hbound⟩ := Graph.exists_bound hfits (h.sound.apart.sublist hsub) hfoot
  have hall : p.template.applyAll (p.bindings.map (·.edit)) = .ok g := by
    rw [h.template, hbindings, List.map_append, Graph.applyAll_append_eq_ok_iff]
    exact ⟨start.graph, hbefore, hg⟩
  exact ⟨bs, g, hbindings, hall, hg, hbound, hreports g hbound⟩

/-- A plan that follows its mode is never refused. -/
theorem Plan.Follows.exists_compile {p : Plan} {mode : Mode} {e : Extent} {family : Family}
    {s : ModeSpec} {l start : Layout} (h : p.Follows mode e family s l start) :
    ∃ x, p.compile = .ok x ∧ x.Conforms mode e family s l start := by
  obtain ⟨bs, g, -, hall, -, hbound, hreports⟩ := h.exists_applyAll
  obtain ⟨notes, hcompile⟩ := Plan.exists_compile hall
  exact ⟨_, hcompile, h.spec, h.sound, h.ofFamily, ⟨bs, hbound⟩, hreports.withNotes notes⟩

/-- What is compiled of a plan that follows its mode: the bindings of the plan on the graph
that its job starts from. -/
theorem Plan.Follows.exists_bound {p : Plan} {mode : Mode} {e : Extent} {family : Family}
    {s : ModeSpec} {l start : Layout} (h : p.Follows mode e family s l start) {x : Compiled}
    (hx : p.compile = .ok x) :
    ∃ bs, p.bindings = s.stitchBindings family e.images l.graph ++ bs ∧
      start.graph.applyAll (bs.map (·.edit)) = .ok x.graph ∧
      start.graph.Bound x.graph (s.footprint family e) bs ∧
      x.details.parametersUsed = Table.ofList (bs.filterMap (·.note)) := by
  obtain ⟨bs, g, hbindings, hall, hg, hbound, -⟩ := h.exists_applyAll
  obtain rfl : g = x.graph := Except.ok.inj (hall.symm.trans (Plan.applyAll_of_compile hx))
  refine ⟨bs, hbindings, hg, hbound, ?_⟩
  obtain ⟨d, hd, rfl⟩ := Plan.compile_eq_ok_iff.1 hx
  have hsilent : (s.stitchBindings family e.images l.graph).filterMap (·.note) = [] := by
    simpa using ModeSpec.note_stitchBindings
  show d.notes = _
  rw [Draft.notes_bindAll hd, hbindings, List.filterMap_append, hsilent, List.nil_append]
  rfl

end Renderflow
