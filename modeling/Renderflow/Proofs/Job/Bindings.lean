import Renderflow.Proofs.Error
import Renderflow.Proofs.Job.Catalog

/-!
# Bindings by role

Where the bindings of each role write and which values they leave there. What a sound mode
binds needs no node that the mode lacks.
-/

namespace Renderflow

/-! ## Loaders -/

theorem Node.connections_of_constants {classType title : String} {inputs : List (String × Value)}
    (h : ∀ e ∈ inputs, e.2.link? = none) : (Node.of classType title inputs).connections = [] := by
  rw [List.eq_nil_iff_forall_not_mem]
  rintro ⟨name, c⟩ hmem
  rw [Node.mem_connections, Node.input?_of] at hmem
  obtain ⟨v, hv, hlink⟩ := Option.bind_eq_some_iff.1 hmem
  simp [h (name, v) (Table.mem_of_last? hv)] at hlink

/-- The file names that a loader holds. -/
def Node.fileNames (n : Node) : List Value :=
  ["unet_name", "ckpt_name"].filterMap n.input?

/-- A node that loads a file and takes nothing from other nodes. -/
def Node.Loads (n : Node) (filename : String) : Prop :=
  n.connections = [] ∧ n.fileNames = [.str filename]

namespace Model

theorem quantizedLoader_loads (title filename : String) :
    (quantizedLoader title filename).Loads filename :=
  ⟨Node.connections_of_constants (by simp [Value.link?]),
    by simp [Node.fileNames, quantizedLoader, Node.input?_of, Table.last?]⟩

theorem diffusionLoader_loads (title filename : String) :
    (diffusionLoader title filename).Loads filename :=
  ⟨Node.connections_of_constants (by simp [Value.link?]),
    by simp [Node.fileNames, diffusionLoader, Node.input?_of, Table.last?]⟩

theorem checkpointLoader_loads (title filename : String) :
    (checkpointLoader title filename).Loads filename :=
  ⟨Node.connections_of_constants (by simp [Value.link?]),
    by simp [Node.fileNames, checkpointLoader, Node.input?_of, Table.last?]⟩

theorem loads_of_loader {m : Model} {n : Node} (h : m.loader = .ok n) : n.Loads m.filename := by
  unfold loader at h
  split at h <;> cases h
  all_goals first
    | exact quantizedLoader_loads _ _
    | exact diffusionLoader_loads _ _
    | exact checkpointLoader_loads _ _

end Model

theorem EditRequest.fluxLoader_loads (filename : String) :
    (EditRequest.fluxLoader filename).Loads filename := by
  unfold EditRequest.fluxLoader
  split
  · exact Model.diffusionLoader_loads _ _
  · exact Model.quantizedLoader_loads _ _

/-! ## Footprints and values of bindings -/

def footprints (bs : List Binding) : List Footprint :=
  bs.map fun b => b.edit.footprint

/-- One of the bindings leaves a value in an input. -/
def Binds (bs : List Binding) (node input : String) (v : Value) : Prop :=
  ∃ b ∈ bs, b.edit.written? node input = some (some v)

variable {bs bs' : List Binding} {b : Binding} {node input : String} {v : Value}

@[simp] theorem footprints_nil : footprints [] = [] := rfl

@[simp] theorem footprints_cons : footprints (b :: bs) = b.edit.footprint :: footprints bs := rfl

@[simp] theorem footprints_append : footprints (bs ++ bs') = footprints bs ++ footprints bs' :=
  List.map_append

@[simp] theorem footprint_set :
    (Binding.set node input v).edit.footprint = .input node input v.link? := rfl

@[simp] theorem footprint_connect (source : String) (output : UInt32) :
    (Binding.connect node input source output).edit.footprint =
      .input node input (some ⟨source, output⟩) := rfl

theorem footprint_loader (node input : String) {n : Node} {filename : String}
    (h : n.Loads filename) :
    (Binding.loader node n input filename).edit.footprint = .whole node [] := by
  simp [Binding.loader, Edit.footprint, h.1]

theorem Binds.mono (h : Binds bs node input v) (hsub : bs ⊆ bs') : Binds bs' node input v := by
  obtain ⟨b, hb, hv⟩ := h
  exact ⟨b, hsub hb, hv⟩

theorem Binds.of_set (h : .set node input v ∈ bs) : Binds bs node input v :=
  ⟨.set node input v, h, by simp [Binding.set, Edit.written?]⟩

/-! ## Bindings of the roles -/

namespace ModeSpec

variable {s : ModeSpec} {family : Family}

theorem modelBindings_ok {m : Model} (h : s.modelBindings m = .ok bs) :
    ∃ n, n.Loads m.filename ∧ bs = [.loader s.modelLoader n "model" m.filename] := by
  obtain ⟨n, hn, hbs⟩ := bind_eq_ok_iff.1 h
  cases hbs
  exact ⟨n, Model.loads_of_loader hn, rfl⟩

theorem footprints_modelBindings {m : Model} (h : s.modelBindings m = .ok bs) {e : Extent}
    (he : e.first) : footprints bs = s.modelFootprint e := by
  obtain ⟨n, hn, rfl⟩ := modelBindings_ok h
  simp [modelFootprint, he, footprint_loader _ _ hn]

/-- The loader of the second stage is replaced if the mode has one and there is a file for it. -/
theorem secondaryBindings_ok {filename : Option String}
    (h : s.secondaryBindings family filename = .ok bs) :
    (∃ node name n, s.secondaryLoader = some node ∧ filename.bind Text.nonBlank? = some name ∧
      n.Loads name ∧ bs = [.loader node n "model" name]) ∨ bs = [] := by
  unfold secondaryBindings at h
  split at h
  case h_2 =>
    cases h
    exact .inr rfl
  case h_1 node name hnode hname =>
    obtain ⟨n, hn, hbs⟩ := bind_eq_ok_iff.1 h
    cases hbs
    exact .inl ⟨node, name, n, hnode, hname, Model.loads_of_loader hn, rfl⟩

theorem footprints_secondaryBindings {filename : Option String}
    (h : s.secondaryBindings family filename = .ok bs) {e : Extent}
    (he : e.second = (filename.bind Text.nonBlank?).isSome) :
    (footprints bs).Sublist (s.secondaryFootprint e) := by
  rcases secondaryBindings_ok h with ⟨node, name, n, hnode, hname, hloads, rfl⟩ | rfl
  · simp [secondaryFootprint, he, hname, hnode, footprint_loader _ _ hloads]
  · exact List.nil_sublist _

theorem Sound.exists_loraBindings {images : Nat} {l start : Layout}
    (h : s.Sound family images l start) :
    ∃ bs, s.loraBindings family = .ok bs ∧ footprints bs = s.loraFootprint family := by
  have hlora : s.lora.isNone || (s.encoderOutput family).isSome := by
    have hroles := h.roles
    simp only [hasRoles, Bool.and_eq_true] at hroles
    exact hroles.1.1
  unfold loraBindings loraFootprint
  cases hl : s.lora with
  | none => exact ⟨[], rfl, rfl⟩
  | some lora =>
    cases family with
    | flux | wan =>
      obtain ⟨clip, hclip⟩ : ∃ clip, s.clipLoader = some clip := by
        simpa [hl, encoderOutput, Option.isSome_iff_exists] using hlora
      simp [require, hclip, encoderOutput, bind, Except.bind]
    | sdxl | qwen => simp [encoderOutput]

theorem footprints_fluxClipBindings (s : ModeSpec) (family : Family) (settings : Settings) :
    (footprints (s.fluxClipBindings family settings)).Sublist (s.fluxClipFootprint family) := by
  unfold fluxClipBindings
  split
  case h_2 => exact List.nil_sublist _
  case h_1 node t5 l hclip ht5 hl =>
    split
    · simp [fluxClipFootprint, hclip, Footprint.constants, Value.link?]
    · exact List.nil_sublist _

theorem seedInput_graph {l : Layout} {node : String} (h : s.seedsRight l node) :
    seedInput l.graph node = .ok s.seedName := by
  unfold seedsRight at h
  cases hn : l.node? node with
  | none => simp [hn] at h
  | some n =>
    have hclass : (n.classType == "KSamplerAdvanced") = s.initialSampler.isSome := by
      rw [hn] at h
      rw [← beq_iff_eq.1 h, Bool.eq_iff_iff]
      simp
    have hnode : l.graph.node node = .ok n.node :=
      Graph.node_eq_ok_iff.2 (by rw [Layout.find?_graph, hn]; rfl)
    have hnodeClass : n.node.classType = n.classType := rfl
    simp only [seedInput, hnode, bind, Except.bind, hnodeClass, hclass, seedName]

/-- The inputs that take the guidance. -/
def guidanceInputs (s : ModeSpec) : List (String × String) :=
  match s.guidance with
  | some node => [(node, "guidance")]
  | none => s.samplers.map fun node => (node, "cfg")

/-- The bindings put sampling values into the samplers of a mode. -/
structure Samples (s : ModeSpec) (p : Sampling) (bs : List Binding) : Prop where
  seed : ∀ node ∈ s.samplers, Binds bs node s.seedName (.int p.seed)
  steps : ∀ node ∈ s.samplers, Binds bs node "steps" (.ofUInt32 p.steps)
  guidance : ∀ i ∈ s.guidanceInputs, Binds bs i.1 i.2 (.float p.guidance)
  denoise : s.initialSampler = none → Binds bs s.sampler "denoise" (.float p.denoise)

theorem Samples.mono {p : Sampling} (h : s.Samples p bs) (hsub : bs ⊆ bs') : s.Samples p bs' where
  seed node hnode := (h.seed node hnode).mono hsub
  steps node hnode := (h.steps node hnode).mono hsub
  guidance i hi := (h.guidance i hi).mono hsub
  denoise hinitial := (h.denoise hinitial).mono hsub

/-- Two samplers take the guidance themselves. -/
theorem Sound.guidance_eq_none {images : Nat} {l start : Layout}
    (h : s.Sound family images l start) {initial : String}
    (hinitial : s.initialSampler = some initial) : s.guidance = none := by
  have hroles := h.roles
  simp only [hasRoles, hinitial, Bool.and_eq_true] at hroles
  simpa using hroles.1.2

theorem Sound.exists_samplerBindings {images : Nat} {l start : Layout}
    (h : s.Sound family images l start) (p : Sampling) :
    ∃ bs, s.samplerBindings l.graph p = .ok bs ∧ footprints bs = s.samplerFootprint ∧
      s.Samples p bs := by
  have hseed : ∀ node ∈ s.samplers, seedInput l.graph node = .ok s.seedName :=
    fun node hnode => seedInput_graph (h.seeds node hnode).1
  have hfinal : seedInput l.graph s.sampler = .ok s.seedName :=
    hseed _ (by simp [ModeSpec.samplers])
  unfold samplerBindings samplerFootprint
  cases hinitial : s.initialSampler with
  | none =>
    refine ⟨_, by simp only [hfinal, bind, Except.bind]; rfl, ?_, ?_⟩
    · cases hg : s.guidance <;> simp [Footprint.constants, Value.link?, Value.ofUInt32]
    · constructor
      · intro node hnode
        obtain rfl : node = s.sampler := by simpa [ModeSpec.samplers, hinitial] using hnode
        exact .of_set (by simp)
      · intro node hnode
        obtain rfl : node = s.sampler := by simpa [ModeSpec.samplers, hinitial] using hnode
        exact .of_set (by simp)
      · intro i hi
        cases hg : s.guidance with
        | none =>
          obtain rfl : i = (s.sampler, "cfg") := by
            simpa [guidanceInputs, hg, ModeSpec.samplers, hinitial] using hi
          exact .of_set (by simp)
        | some node =>
          obtain rfl : i = (node, "guidance") := by simpa [guidanceInputs, hg] using hi
          exact .of_set (by simp)
      · exact fun _ => .of_set (by simp)
  | some initial =>
    have hfirst : seedInput l.graph initial = .ok s.seedName :=
      hseed _ (by simp [ModeSpec.samplers, hinitial])
    have hguidance := h.guidance_eq_none hinitial
    have hstages : ∀ node ∈ s.samplers, node = initial ∨ node = s.sampler := by
      simp [ModeSpec.samplers, hinitial]
    refine ⟨_, by simp only [stageBindings, hfirst, hfinal, bind, Except.bind]; rfl, ?_, ?_⟩
    · simp [stageFootprint, Footprint.constants, Value.link?, Value.ofUInt32]
    · constructor
      · intro node hnode
        rcases hstages node hnode with rfl | rfl <;> exact .of_set (by simp)
      · intro node hnode
        rcases hstages node hnode with rfl | rfl <;> exact .of_set (by simp)
      · intro i hi
        obtain ⟨node, hnode, rfl⟩ := by simpa [guidanceInputs, hguidance] using hi
        rcases hstages node hnode with rfl | rfl <;> exact .of_set (by simp)
      · intro hnone
        simp [hinitial] at hnone

theorem exists_latentBindings (s : ModeSpec) (family : Family) {latent : String}
    (h : s.latent = some latent) (ratio : String) (mpSize : Float) (batch : UInt32) :
    ∃ bs, s.latentBindings family ratio mpSize batch = .ok bs ∧
      footprints bs = s.latentFootprint ∧ Binds bs latent "aspect_ratio" (.str ratio) ∧
      Binds bs latent "mp_size_float" (.float mpSize) ∧
      Binds bs latent "batch_size" (.ofUInt32 batch) := by
  refine ⟨_, by simp only [latentBindings, require, h, bind, Except.bind]; rfl, ?_, ?_, ?_, ?_⟩
  · simp [latentFootprint, h, Footprint.constants, Value.link?, Value.ofUInt32, entryFootprint]
  all_goals exact .of_set (by simp)

theorem exists_imageBindings {load : String} (h : s.loadImage = some load) (location : String) :
    ∃ bs, s.imageBindings location = .ok bs ∧ footprints bs = s.imageFootprint ∧
      Binds bs load "url_or_path" (.str location) := by
  refine ⟨_, by simp only [imageBindings, require, h, bind, Except.bind]; rfl, ?_, ?_⟩
  · cases he : s.encode <;>
      simp [imageFootprint, h, he, Footprint.constants, Value.link?, ifRole, entryFootprint]
  · exact .of_set (by simp)

theorem footprints_promptBindings (s : ModeSpec) (positive negative : String) :
    footprints (s.promptBindings positive negative) = s.promptFootprint := by
  cases hn : s.negativePrompt <;>
    simp [promptBindings, promptFootprint, hn, ifRole, Footprint.constants, Value.link?]

theorem footprints_styleBindings (s : ModeSpec) (style : ResolvedStyle) :
    footprints (s.styleBindings style) = s.styleFootprint := by
  cases hl : s.lora with
  | none => simp [styleBindings, styleFootprint, hl, ifRole]
  | some lora =>
    have hnames : slotNames.toList = (slotNames.zip style.slots).toList.map Prod.fst := by
      simp [Vector.toList_zip, List.map_fst_zip]
    simp only [styleBindings, styleFootprint, hl, ifRole, ResolvedStyle.edits, footprints,
      List.map_map, Option.toList_some, List.flatMap_singleton, Footprint.constants, hnames]
    rfl

theorem footprints_outputBindings (s : ModeSpec) (stem : String) :
    footprints (s.outputBindings stem) = s.outputFootprint := by
  simp [outputBindings, outputFootprint, Footprint.constants, Value.link?]

end ModeSpec

end Renderflow
