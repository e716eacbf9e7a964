import Renderflow.Proofs.Job.Plan

/-!
# What the record of a job reports

The fields of a record against the inputs of the graph that they tell about. Numbers are
compared by value, whole numbers widened.
-/

namespace Renderflow

/-- The whole number of an input. -/
def Value.whole? (v : Value) : Option Int :=
  v.asInt?.map Int64.toInt

/-- A word of 32 bits as a whole number. -/
def reportedWord (n : Option UInt32) : Option Int :=
  n.map fun n => (n.toNat : Int)

/-- The locations of the images that a job shows. -/
def JobDetails.sources (d : JobDetails) : List String :=
  d.imageSources.getD d.imageSource.toList

/-- The nodes that load the images of a job, in their order. -/
def ModeSpec.loadNodes (s : ModeSpec) (family : Family) (images : Nat) : List String :=
  if s.mode = .edit ∧ family = .flux then (List.range' 1 images).map Stitch.loaderName
  else s.loadImage.toList

namespace Graph

variable {α : Type}

/-- An input holds what is reported about it. -/
def Holds (g : Graph) (node input : String) (read : Value → Option α) (reported : Option α) :
    Prop :=
  ∃ v a, g.value? node input = some v ∧ read v = some a ∧ reported = some a

/-- The file names that a loader holds. -/
def fileNames (g : Graph) (node : String) : List Value :=
  ["unet_name", "ckpt_name"].filterMap (g.value? node)

/-- The values that the samplers run with. -/
structure ReportsSampling (g : Graph) (s : ModeSpec) (d : JobDetails) : Prop where
  seed : ∀ node ∈ s.samplers, ∃ input, ModeSpec.seedInput g node = .ok input ∧
    g.Holds node input Value.asInt? d.seed
  steps : ∀ node ∈ s.samplers, g.Holds node "steps" Value.whole? (reportedWord d.steps)
  guidance : ∀ i ∈ s.guidanceInputs, g.Holds i.1 i.2 Value.asFloat? d.guidance
  denoise : s.initialSampler = none → d.denoise.isSome →
    g.Holds s.sampler "denoise" Value.asFloat? d.denoise

/-- The prompts. A mode without a node for the negative prompt reports none. -/
structure ReportsPrompts (g : Graph) (s : ModeSpec) (d : JobDetails) : Prop where
  positive : g.Holds s.positivePrompt "text" Value.asString? d.prompt
  negative : ∀ node, s.negativePrompt = some node →
    g.Holds node "text" Value.asString? d.negativePrompt
  noNegative : s.negativePrompt = none ↔ d.negativePrompt = none

/-- The images, as many and in the order in which they are loaded. -/
structure ReportsImages (g : Graph) (loadNodes : List String) (d : JobDetails) : Prop where
  sources : loadNodes.map (g.value? · "url_or_path") = d.sources.map fun l => some (.str l)
  source : ∀ l, d.imageSource = some l → d.sources = [l]

/-- The size of what a job makes: that of a latent image, of an upscale or of a video. -/
def ReportsSize (g : Graph) (s : ModeSpec) (family : Family) (d : JobDetails) : Prop :=
  match s.mode, family with
  | .txt2img, _ | .edit, .flux => ∃ latent, s.latent = some latent ∧
    g.Holds latent "aspect_ratio" Value.asString? d.aspectRatio ∧
    g.Holds latent "mp_size_float" Value.asFloat? d.mpSize ∧
    g.Holds latent "batch_size" Value.whole? (reportedWord d.batchSize)
  | .upscale, _ => ∃ helper upscaler, s.latent = some helper ∧ s.upscaleLoader = some upscaler ∧
    g.Holds helper "aspect_ratio" Value.asString? d.aspectRatio ∧
    g.Holds helper "upscale_by" Value.asFloat? d.upscaleFactor ∧
    g.Holds upscaler "model_name" Value.asString? d.upscaleModel
  | .animation, _ => ∃ video, s.latent = some video ∧
    g.Holds video "width" Value.whole? (reportedWord d.width) ∧
    g.Holds video "height" Value.whole? (reportedWord d.height) ∧
    g.Holds video "length" Value.whole? (reportedWord d.animationFrames)
  | _, _ => True

/-- A record tells what the graph of its job holds. -/
structure Reports (g : Graph) (s : ModeSpec) (family : Family) (images : Nat)
    (d : JobDetails) : Prop where
  sampling : g.ReportsSampling s d
  prompts : g.ReportsPrompts s d
  model : ∀ m, d.modelUsed = some m → g.fileNames s.modelLoader = [.str m]
  images : g.ReportsImages (s.loadNodes family images) d
  size : g.ReportsSize s family d

/-- The notes of a job are no part of what is reported here. -/
theorem Reports.withNotes {g : Graph} {s : ModeSpec} {family : Family} {images : Nat}
    {d : JobDetails} (h : g.Reports s family images d) (notes : Table Json) :
    g.Reports s family images { d with parametersUsed := notes } where
  sampling := ⟨h.sampling.seed, h.sampling.steps, h.sampling.guidance, h.sampling.denoise⟩
  prompts := ⟨h.prompts.positive, h.prompts.negative, h.prompts.noNegative⟩
  model := h.model
  images := ⟨h.images.sources, h.images.source⟩
  size := h.size

/-! ## Reports of bound values -/

variable {base g : Graph} {fs : List Footprint} {bs : List Binding}

theorem Bound.holds (h : base.Bound g fs bs) {node input : String} {v : Value}
    (hv : Binds bs node input v) {read : Value → Option α} {reported : Option α}
    (hread : read v = reported) (hsome : reported.isSome) : g.Holds node input read reported := by
  obtain ⟨a, rfl⟩ := Option.isSome_iff_exists.1 hsome
  exact ⟨v, a, h.value?_of_binds hv, hread, rfl⟩

theorem whole?_ofUInt32 (n : UInt32) : (Value.ofUInt32 n).whole? = reportedWord (some n) := by
  have hn := n.toNat_lt
  simp only [Value.whole?, Value.ofUInt32, Value.asInt?, reportedWord, Option.map_some]
  rw [Int64.toInt_ofNat_of_lt (by omega)]

theorem Bound.holds_word (h : base.Bound g fs bs) {node input : String} {n : UInt32}
    (hv : Binds bs node input (.ofUInt32 n)) :
    g.Holds node input Value.whole? (reportedWord (some n)) :=
  h.holds hv (whole?_ofUInt32 n) rfl

theorem seedInput_of_label? {node classType : String} {title : Option String}
    (h : g.label? node = some (classType, title)) : ModeSpec.seedInput g node =
      .ok (if classType == "KSamplerAdvanced" then "noise_seed" else "seed") := by
  obtain ⟨n, hn, hlabel⟩ := Option.map_eq_some_iff.1 h
  obtain ⟨rfl, -⟩ := Prod.mk.inj hlabel
  simp only [ModeSpec.seedInput, node_eq_ok_iff.2 hn, bind, Except.bind]

theorem seedInput_congr {g' : Graph} {node : String} (h : g'.label? node = g.label? node) :
    ModeSpec.seedInput g' node = ModeSpec.seedInput g node := by
  cases hl : g.label? node with
  | some l => rw [seedInput_of_label? hl, seedInput_of_label? (h.trans hl)]
  | none =>
    have hnone {g : Graph} (hg : g.label? node = none) :
        ModeSpec.seedInput g node = .error (.missingNode node) := by
      have hfind : g.find? node = none := Option.map_eq_none_iff.1 hg
      simp only [ModeSpec.seedInput, Graph.node, hfind, bind, Except.bind]
    rw [hnone hl, hnone (h.trans hl)]

/-- The samplers of a bound graph still tell which of their inputs takes the seed. -/
theorem Bound.seedInput {l start : Layout} {s : ModeSpec} {family : Family} {e : Extent}
    (h : start.graph.Bound g (s.footprint family e) bs) (hsound : s.Sound family e.images l start)
    {node : String} (hnode : node ∈ s.samplers) :
    ModeSpec.seedInput g node = .ok s.seedName := by
  have hout : ∀ f ∈ s.footprint family e, ¬ f.CoversNode node := fun f hf =>
    hsound.samplers node hnode f ((s.footprint_sublist family e).subset hf)
  rw [seedInput_congr (h.label? node hout),
    ModeSpec.seedInput_graph (hsound.seeds node hnode).2]

theorem Bound.reportsSampling {l start : Layout} {s : ModeSpec} {family : Family} {e : Extent}
    (h : start.graph.Bound g (s.footprint family e) bs) (hsound : s.Sound family e.images l start)
    {p : Sampling} (hp : s.Samples p bs) {d : JobDetails} (hseed : d.seed = some p.seed)
    (hsteps : d.steps = some p.steps) (hguidance : d.guidance = some p.guidance)
    (hdenoise : ∀ x, d.denoise = some x → x = p.denoise) : g.ReportsSampling s d where
  seed node hnode := by
    refine ⟨s.seedName, h.seedInput hsound hnode, ?_⟩
    exact h.holds (hp.seed node hnode) hseed.symm (by simp [hseed])
  steps node hnode := by
    rw [hsteps]
    exact h.holds_word (hp.steps node hnode)
  guidance i hi := h.holds (hp.guidance i hi) hguidance.symm (by simp [hguidance])
  denoise hinitial hsome := by
    obtain ⟨x, hx⟩ := Option.isSome_iff_exists.1 hsome
    obtain rfl := hdenoise x hx
    exact h.holds (hp.denoise hinitial) hx.symm hsome

theorem Bound.reportsPrompts {s : ModeSpec} (h : base.Bound g fs bs) {positive negative : String}
    (hsub : s.promptBindings positive negative ⊆ bs) {d : JobDetails}
    (hpositive : d.prompt = some positive)
    (hnegative : d.negativePrompt = s.recordedNegative negative) : g.ReportsPrompts s d where
  positive := by
    have htext : Binds bs s.positivePrompt "text" (.str positive) :=
      .of_set (hsub (by simp [ModeSpec.promptBindings]))
    exact h.holds htext hpositive.symm (by simp [hpositive])
  negative node hnode := by
    have htext : Binds bs node "text" (.str negative) :=
      .of_set (hsub (by simp [ModeSpec.promptBindings, ModeSpec.ifRole, hnode]))
    have hreported : d.negativePrompt = some negative := by
      simp [hnegative, ModeSpec.recordedNegative, hnode]
    exact h.holds htext hreported.symm (by simp [hreported])
  noNegative := by simp [hnegative, ModeSpec.recordedNegative]

theorem Bound.fileNames_of_loader (h : base.Bound g fs bs) {node input filename : String}
    {n : Node} (hn : n.Loads filename) (hmem : .loader node n input filename ∈ bs) :
    g.fileNames node = [.str filename] := by
  have hvalue : g.value? node = n.input? := by
    funext name
    exact h.written _ hmem node name _ (by simp [Binding.loader, Edit.written?])
  rw [fileNames, hvalue]
  exact hn.2

/-- The one image of a job. -/
theorem Bound.reportsImages_single (h : base.Bound g fs bs) {load location : String}
    (hload : Binds bs load "url_or_path" (.str location)) {d : JobDetails}
    (hsource : d.imageSource = some location)
    (hsources : d.imageSources = none ∨ d.imageSources = some [location]) :
    g.ReportsImages [load] d := by
  have hd : d.sources = [location] := by
    rcases hsources with hsources | hsources <;> simp [JobDetails.sources, hsource, hsources]
  refine ⟨by simp [hd, h.value?_of_binds hload], fun l hl => ?_⟩
  obtain rfl : location = l := by simpa [hsource] using hl
  exact hd

end Graph

end Renderflow
