import Renderflow.Proofs.Job.Compile
import Renderflow.Proofs.Job.Planned

/-!
# The bindings of a job, by what is noted of them

A job notes each input that it sets, under the node and the input, and each loader that it
replaces. It connects inputs and writes the slots of a style without a note.
-/

namespace Renderflow

/-! ## Inputs without fields -/

namespace Value

@[simp] theorem object?_int (n : Int64) : (int n).object? = none := by simp [object?]

@[simp] theorem object?_float (x : Float) : (float x).object? = none := by simp [object?]

@[simp] theorem object?_str (s : String) : (str s).object? = none := by simp [object?]

@[simp] theorem object?_ofUInt32 (n : UInt32) : (ofUInt32 n).object? = none := by
  simp [ofUInt32]

end Value

/-- A node that has no object among its inputs. -/
def Node.IsFlat (n : Node) : Prop :=
  ∀ e ∈ n.inputs.entries, e.2.object? = none

theorem Node.isFlat_of {classType title : String} {inputs : List (String × Value)}
    (h : ∀ e ∈ inputs, e.2.object? = none) : (Node.of classType title inputs).IsFlat :=
  fun e he => h e (Table.mem_ofList he)

theorem Model.isFlat_loader {m : Model} {n : Node} (h : m.loader = .ok n) : n.IsFlat := by
  unfold loader at h
  split at h <;> cases h
  all_goals exact Node.isFlat_of (by simp)

theorem EditRequest.isFlat_fluxLoader (filename : String) : (fluxLoader filename).IsFlat := by
  unfold fluxLoader
  split <;> exact Node.isFlat_of (by simp)

namespace Binding

/-- The entry of an input in the notes of a job. -/
def key (node input : String) : String :=
  node ++ "." ++ input

theorem key_inj {node node' input input' : String} (hinput : '.' ∉ input.toList)
    (hinput' : '.' ∉ input'.toList) (h : key node input = key node' input') :
    node = node' ∧ input = input' := by
  have hcs : node.toList ++ '.' :: input.toList = node'.toList ++ '.' :: input'.toList := by
    simpa [key] using congrArg String.toList h
  rcases List.append_eq_append_iff.1 hcs with ⟨more, hnode, hrest⟩ | ⟨more, hnode, hrest⟩
  · cases more with
    | nil => exact ⟨String.toList_inj.1 (by simpa using hnode.symm),
        String.toList_inj.1 (by simpa using hrest)⟩
    | cons c more => exact absurd (by simp [(List.cons.inj hrest).2]) hinput
  · cases more with
    | nil => exact ⟨String.toList_inj.1 (by simpa using hnode),
        String.toList_inj.1 (by simpa using hrest.symm)⟩
    | cons c more => exact absurd (by simp [(List.cons.inj hrest).2]) hinput'

/-- A binding of one input: it is set to a constant and noted, or it is connected. -/
inductive Plain : Binding → Prop
  | set (node input : String) (value : Value) (hinput : '.' ∉ input.toList)
    (hvalue : value.object? = none) : Plain (.set node input value)
  | connect (node input source : String) (output : UInt32) :
    Plain (.connect node input source output)

/-- The bindings of a job of a mode: besides the plain ones, the slots of its LoRA node, which
are written without a note, and the loaders that it replaces. -/
inductive Ordinary (s : ModeSpec) (replaced : List String) : Binding → Prop
  | plain {b : Binding} (h : b.Plain) : Ordinary s replaced b
  | slot (lora input : String) (slot : LoraSlot) (hlora : s.lora = some lora)
    (hinput : input ∈ slotNames) :
    Ordinary s replaced (.silent (.insertInput lora input slot.value))
  | loader (node filename : String) (n : Node) (hnode : node ∈ replaced)
    (hloads : n.Loads filename) (hflat : n.IsFlat) :
    Ordinary s replaced (.loader node n "model" filename)
  | unet (node filename : String) (n : Node) (hnode : node ∈ replaced)
    (hunet : n.input? "unet_name" = some (.str filename)) (hflat : n.IsFlat) :
    Ordinary s replaced (.loader node n "unet_name" filename)

variable {s : ModeSpec} {replaced : List String} {b : Binding}

@[simp] theorem plain_set {node input : String} {value : Value} (hinput : '.' ∉ input.toList)
    (hvalue : value.object? = none) : (Binding.set node input value).Plain :=
  .set node input value hinput hvalue

@[simp] theorem plain_connect {node input source : String} {output : UInt32} :
    (Binding.connect node input source output).Plain :=
  .connect node input source output

/-- The place of an ordinary binding, but for the slots and the replaced loaders, is noted. -/
theorem Ordinary.note_of_written? (h : b.Ordinary s replaced) {node input : String}
    {v : Option Value} (hv : b.edit.written? node input = some v)
    (hslot : ¬ (s.lora = some node ∧ input ∈ slotNames)) (hnode : node ∉ replaced) :
    '.' ∉ input.toList ∧ (∃ w, v = some w ∧ b.note = some (key node input, w.toJson)) ∨
      ∃ c, v = some (.link c) := by
  cases h with
  | plain h =>
    cases h with
    | set node' input' value hinput =>
      obtain ⟨⟨rfl, rfl⟩, rfl⟩ := by simpa [Binding.set, Edit.written?] using hv
      exact .inl ⟨hinput, value, rfl, rfl⟩
    | connect node' input' source output =>
      obtain ⟨-, rfl⟩ := by simpa [Binding.connect, Edit.written?] using hv
      exact .inr ⟨_, rfl⟩
  | slot lora input' value hlora hinput =>
    obtain ⟨⟨rfl, rfl⟩, -⟩ := by simpa [silent, Edit.written?] using hv
    exact absurd ⟨hlora, hinput⟩ hslot
  | loader node' filename n hnode' | unet node' filename n hnode' =>
    obtain ⟨rfl, -⟩ := by simpa [Binding.loader, Edit.written?] using hv
    exact absurd hnode' hnode

end Binding

/-! ## Ordinary bindings by role -/

theorem EditRequest.input?_fluxLoader (filename : String) :
    (fluxLoader filename).input? "unet_name" = some (.str filename) := by
  unfold fluxLoader
  split <;>
    simp [Model.diffusionLoader, Model.quantizedLoader, Node.input?_of, Table.last?]

namespace ModeSpec

variable {s : ModeSpec} {family : Family} {bs : List Binding} {replaced : List String}

theorem plain_loraBindings (h : s.loraBindings family = .ok bs) : ∀ b ∈ bs, b.Plain := by
  cases hlora : s.lora with
  | none =>
    simp only [loraBindings, hlora] at h
    cases h
    simp
  | some lora =>
    cases family with
    | flux | wan =>
      simp only [loraBindings, hlora] at h
      obtain ⟨clip, -, hbs⟩ := bind_eq_ok_iff.1 h
      cases hbs
      simp
    | sdxl | qwen =>
      simp only [loraBindings, hlora] at h
      cases h
      simp

theorem plain_fluxClipBindings (s : ModeSpec) (family : Family) (settings : Settings) :
    ∀ b ∈ s.fluxClipBindings family settings, b.Plain := by
  unfold fluxClipBindings
  split
  · split <;> simp
  · simp

theorem notMem_seedInput {template : Graph} {node input : String}
    (h : seedInput template node = .ok input) : '.' ∉ input.toList := by
  obtain ⟨n, -, hinput⟩ := bind_eq_ok_iff.1 h
  cases hinput
  split <;> simp

theorem plain_stageBindings {template : Graph} {p : Sampling} {node : String}
    (h : stageBindings template p node = .ok bs) : ∀ b ∈ bs, b.Plain := by
  obtain ⟨input, hinput, hbs⟩ := bind_eq_ok_iff.1 h
  cases hbs
  simp [notMem_seedInput hinput]

theorem plain_samplerBindings {template : Graph} {p : Sampling}
    (h : s.samplerBindings template p = .ok bs) : ∀ b ∈ bs, b.Plain := by
  unfold samplerBindings at h
  split at h
  · obtain ⟨first, hfirst, hrest⟩ := bind_eq_ok_iff.1 h
    obtain ⟨final, hfinal, hbs⟩ := bind_eq_ok_iff.1 hrest
    cases hbs
    simp only [List.forall_mem_append]
    exact ⟨⟨plain_stageBindings hfirst, plain_stageBindings hfinal⟩, by simp⟩
  · obtain ⟨input, hinput, hbs⟩ := bind_eq_ok_iff.1 h
    cases hbs
    cases s.guidance <;> simp [notMem_seedInput hinput]

theorem plain_latentBindings {ratio : String} {mpSize : Float} {batch : UInt32}
    (h : s.latentBindings family ratio mpSize batch = .ok bs) : ∀ b ∈ bs, b.Plain := by
  obtain ⟨latent, -, hbs⟩ := bind_eq_ok_iff.1 h
  cases hbs
  simp

theorem plain_imageBindings {location : String} (h : s.imageBindings location = .ok bs) :
    ∀ b ∈ bs, b.Plain := by
  obtain ⟨load, -, hbs⟩ := bind_eq_ok_iff.1 h
  cases hbs
  cases s.encode <;> simp [ifRole]

theorem plain_promptBindings (s : ModeSpec) (positive negative : String) :
    ∀ b ∈ s.promptBindings positive negative, b.Plain := by
  unfold promptBindings
  cases s.negativePrompt <;> simp [ifRole]

theorem plain_outputBindings (s : ModeSpec) (stem : String) :
    ∀ b ∈ s.outputBindings stem, b.Plain := by
  simp [outputBindings]

theorem ordinary_modelBindings {m : Model} (h : s.modelBindings m = .ok bs)
    (hreplaced : s.modelLoader ∈ replaced) : ∀ b ∈ bs, b.Ordinary s replaced := by
  obtain ⟨n, hn, hbs⟩ := bind_eq_ok_iff.1 h
  cases hbs
  simpa using Binding.Ordinary.loader s.modelLoader m.filename n hreplaced
    (Model.loads_of_loader hn) (Model.isFlat_loader hn)

theorem ordinary_secondaryBindings {filename : Option String}
    (h : s.secondaryBindings family filename = .ok bs)
    (hreplaced : isConfigured filename → ∀ node, s.secondaryLoader = some node → node ∈ replaced) :
    ∀ b ∈ bs, b.Ordinary s replaced := by
  unfold secondaryBindings at h
  split at h
  · next node name hnode hname =>
    obtain ⟨n, hn, hbs⟩ := bind_eq_ok_iff.1 h
    cases hbs
    have hmem := hreplaced (by simp [isConfigured, hname]) node hnode
    simpa using Binding.Ordinary.loader node name n hmem (Model.loads_of_loader hn)
      (Model.isFlat_loader hn)
  · cases h
    simp

theorem ordinary_styleBindings (s : ModeSpec) (style : ResolvedStyle) :
    ∀ b ∈ s.styleBindings style, b.Ordinary s replaced := by
  cases hlora : s.lora with
  | none => simp [styleBindings, hlora, ifRole]
  | some lora =>
    simp only [styleBindings, hlora, ifRole, ResolvedStyle.edits, List.map_map, List.forall_mem_map]
    intro e he
    have hinput : e.1 ∈ slotNames := by
      have hmem : e.1 ∈ (slotNames.zip style.slots).toList.map Prod.fst := List.mem_map_of_mem he
      simpa [Vector.toList_zip, List.map_fst_zip] using hmem
    exact .slot lora e.1 e.2 hlora hinput

/-- The loaders that a job of a mode replaces. A Qwen edit keeps that of its template. -/
def replacedLoaders (s : ModeSpec) (family : Family) (e : Extent) : List String :=
  match s.mode, family with
  | .upscale, _ | .edit, .flux => if e.first then [s.modelLoader] else []
  | .edit, _ => []
  | _, _ =>
    (if e.first then [s.modelLoader] else []) ++
      if e.second then s.secondaryLoader.toList else []

theorem modelLoader_mem_replacedLoaders {e : Extent} (he : e.first)
    (hmode : s.mode = .edit → family = .flux) :
    s.modelLoader ∈ s.replacedLoaders family e := by
  unfold replacedLoaders
  cases hm : s.mode <;> cases family <;> simp_all

theorem secondaryLoader_mem_replacedLoaders {e : Extent} (he : e.second)
    (hmode : s.mode ≠ .upscale ∧ s.mode ≠ .edit) {node : String}
    (hnode : s.secondaryLoader = some node) : node ∈ s.replacedLoaders family e := by
  unfold replacedLoaders
  cases hm : s.mode <;> simp_all

end ModeSpec

theorem Binding.Ordinary.of_plain {bs : List Binding} (h : ∀ b ∈ bs, b.Plain) (s : ModeSpec)
    (replaced : List String) : ∀ b ∈ bs, b.Ordinary s replaced :=
  fun b hb => .plain (h b hb)

/-! ## Ordinary bindings by request -/

open ModeSpec Binding.Ordinary

theorem plain_start_bindings {start : Start} {s : ModeSpec} {family : Family} {bs : List Binding}
    (h : start.bindings s family = .ok bs) : ∀ b ∈ bs, b.Plain := by
  cases start with
  | image source => exact plain_imageBindings h
  | size ratio mpSize batch => exact plain_latentBindings h

/-- The bindings of a generation or of a variation are ordinary. -/
theorem ModeSpec.ordinary_of_rendering {s : ModeSpec} {family : Family} {e : Extent}
    (hmode : s.mode ≠ .upscale ∧ s.mode ≠ .edit) {model : Model} {low : Option String}
    {template : Graph} {p : Sampling} {loaders second lora samplers source : List Binding}
    (hloaders : s.modelBindings model = .ok loaders) (hfirst : e.first)
    (hsecond : s.secondaryBindings family low = .ok second) (hlow : e.second = isConfigured low)
    (hlora : s.loraBindings family = .ok lora)
    (hsamplers : s.samplerBindings template p = .ok samplers) (hsource : ∀ b ∈ source, b.Plain)
    (settings : Settings) (positive negative : String) (style : ResolvedStyle) (stem : String) :
    ∀ b ∈ loaders ++ second ++ lora ++ s.fluxClipBindings family settings ++ samplers ++ source ++
        s.promptBindings positive negative ++ s.styleBindings style ++ s.outputBindings stem,
      b.Ordinary s (s.replacedLoaders family e) := by
  simp only [List.forall_mem_append, and_assoc]
  exact ⟨ordinary_modelBindings hloaders
      (modelLoader_mem_replacedLoaders hfirst fun hedit => absurd hedit hmode.2),
    ordinary_secondaryBindings hsecond fun hconfigured _ =>
      secondaryLoader_mem_replacedLoaders (hlow.trans hconfigured) hmode,
    .of_plain (plain_loraBindings hlora) _ _, .of_plain (plain_fluxClipBindings _ _ _) _ _,
    .of_plain (plain_samplerBindings hsamplers) _ _, .of_plain hsource _ _,
    .of_plain (plain_promptBindings _ _ _) _ _, ordinary_styleBindings _ _,
    .of_plain (plain_outputBindings _ _) _ _⟩

theorem GenerationRequest.Planned.ordinary {r : GenerationRequest} {c : JobContext} {p : Plan}
    (h : r.Planned c p) {family : Family} {s : ModeSpec} (hfamily : p.details.family = some family)
    (hspec : modeSpec family (JobRequest.generation r).mode = .ok s) :
    ∀ b ∈ p.bindings,
      b.Ordinary s (s.replacedLoaders family ((JobRequest.generation r).extent c)) := by
  obtain @⟨model, start, s', _, _, _, _, _, _, _, -, hstart, hspec', -, -, hloaders, hsecond, hlora,
    hsamplers, hsource⟩ := h
  obtain rfl : model.family = family := by
    cases start <;> simpa [details, Start.record] using hfamily
  rw [← (r.start_delivers c).value start hstart] at hspec
  obtain rfl : s' = s := Except.ok.inj (hspec'.symm.trans hspec)
  have hmode : s'.mode ≠ .upscale ∧ s'.mode ≠ .edit := by
    rw [(mem_modes_of_modeSpec hspec).2]
    cases start <;> simp [Start.mode]
  exact ModeSpec.ordinary_of_rendering hmode hloaders rfl hsecond rfl hlora hsamplers
    (plain_start_bindings hsource) _ _ _ _ _

theorem VariationRequest.Planned.ordinary {r : VariationRequest} {c : JobContext} {p : Plan}
    (h : r.Planned c p) {family : Family} {s : ModeSpec} (hfamily : p.details.family = some family)
    (hspec : modeSpec family (JobRequest.variation r).mode = .ok s) :
    ∀ b ∈ p.bindings,
      b.Ordinary s (s.replacedLoaders family ((JobRequest.variation r).extent c)) := by
  obtain @⟨model, s', _, _, _, _, _, _, _, -, hspec', -, -, hloaders, hsecond, hlora, hsamplers,
    himage⟩ := h
  obtain rfl : model.family = family := by simpa [details] using hfamily
  obtain rfl : s' = s := Except.ok.inj (hspec'.symm.trans hspec)
  have hmode : s'.mode ≠ .upscale ∧ s'.mode ≠ .edit := by
    rw [(mem_modes_of_modeSpec hspec').2]
    cases r.strength <;> simp [VariationStrength.mode]
  exact ModeSpec.ordinary_of_rendering hmode hloaders rfl hsecond rfl hlora hsamplers
    (plain_imageBindings himage) _ _ _ _ _

theorem UpscaleRequest.Planned.ordinary {r : UpscaleRequest} {c : JobContext} {p : Plan}
    (h : r.Planned c p) {family : Family} {s : ModeSpec} (hfamily : p.details.family = some family)
    (hspec : modeSpec family (JobRequest.upscale r).mode = .ok s) :
    ∀ b ∈ p.bindings,
      b.Ordinary s (s.replacedLoaders family ((JobRequest.upscale r).extent c)) := by
  obtain @⟨model, s', _, _, _, _, _, _, _, -, hspec', -, -, -, -, hloaders, hlora, himage⟩ := h
  obtain rfl : model.family = family := by simpa [details] using hfamily
  obtain rfl : s' = s := Except.ok.inj (hspec'.symm.trans hspec)
  have hmode : s'.mode = .upscale := (mem_modes_of_modeSpec hspec').2
  simp only [List.forall_mem_append, and_assoc]
  exact ⟨ordinary_modelBindings hloaders (modelLoader_mem_replacedLoaders rfl (by simp [hmode])),
    .of_plain (plain_loraBindings hlora) _ _, .of_plain (plain_fluxClipBindings _ _ _) _ _,
    .of_plain (by simp) _ _, .of_plain (plain_imageBindings himage) _ _,
    .of_plain (plain_promptBindings _ _ _) _ _, ordinary_styleBindings _ _,
    .of_plain (plain_outputBindings _ _) _ _⟩

/-- The stitching of a Flux edit copies the first load node of its template. -/
theorem ModeSpec.stitchBindings_edit {s : ModeSpec} (hspec : modeSpec .flux .edit = .ok s)
    {template : Graph} {first : Node} (hfirst : template.node "load_image_1" = .ok first)
    (images : Nat) : s.stitchBindings .flux images template = Stitch.bindings first images := by
  have hmode : s.mode = .edit := (mem_modes_of_modeSpec hspec).2
  simp [stitchBindings, hmode, Graph.node_eq_ok_iff.1 hfirst]

namespace EditRequest

theorem plain_locationBindings (locations : List String) :
    ∀ b ∈ Stitch.locationBindings locations, b.Plain := by
  simp only [Stitch.locationBindings, List.forall_mem_map]
  exact fun _ _ => Binding.plain_set (by simp) rfl

/-- After its stitching, a Flux edit has ordinary bindings. -/
theorem FluxPlanned.ordinary {r : EditRequest} {c : JobContext} {p : Plan}
    (h : r.FluxPlanned c p) {s : ModeSpec} (hspec : modeSpec .flux .edit = .ok s)
    {template : Graph} (htemplate : s.graph = .ok template) {bs : List Binding}
    (hbindings : p.bindings = s.stitchBindings .flux r.images.length template ++ bs) :
    ∀ b ∈ bs, b.Ordinary s (s.replacedLoaders .flux ((JobRequest.edit r).extent c)) := by
  obtain @⟨s', images, model, _, _, template', first, _, _, hspec', -, -, -, -, -,
    htemplate', hfirst, hsamplers, hlatent⟩ := h
  obtain rfl : s' = s := Except.ok.inj (hspec'.symm.trans hspec)
  obtain rfl : template' = template := Except.ok.inj (htemplate'.symm.trans htemplate)
  simp only [stitchBindings_edit hspec hfirst, List.append_assoc,
    List.append_cancel_left_eq] at hbindings
  subst hbindings
  have hreplaced : s'.modelLoader ∈ s'.replacedLoaders .flux ((JobRequest.edit r).extent c) :=
    modelLoader_mem_replacedLoaders rfl fun _ => rfl
  simp only [List.forall_mem_append, List.forall_mem_cons]
  exact ⟨⟨.unet _ _ _ hreplaced (input?_fluxLoader model) (isFlat_fluxLoader model),
      .plain (by simp), by simp⟩,
    .of_plain (plain_fluxClipBindings _ _ _) _ _, .of_plain (plain_locationBindings _) _ _,
    .of_plain (plain_samplerBindings hsamplers) _ _, .of_plain (plain_latentBindings hlatent) _ _,
    .of_plain (plain_promptBindings _ _ _) _ _, .of_plain (plain_outputBindings _ _) _ _⟩

theorem QwenPlanned.ordinary {r : EditRequest} {c : JobContext} {p : Plan}
    (h : r.QwenPlanned c p) {s : ModeSpec} (hspec : modeSpec .qwen .edit = .ok s)
    (replaced : List String) : ∀ b ∈ p.bindings, b.Ordinary s replaced := by
  obtain @⟨s', _, _, _, _, _, _, hspec', -, -, -, -, hlora, hsamplers, himage⟩ := h
  obtain rfl : s' = s := Except.ok.inj (hspec'.symm.trans hspec)
  simp only [List.forall_mem_append, and_assoc]
  exact ⟨.of_plain (by simp) _ _, .of_plain (plain_loraBindings hlora) _ _,
    .of_plain (plain_samplerBindings hsamplers) _ _, .of_plain (plain_imageBindings himage) _ _,
    .of_plain (plain_promptBindings _ _ _) _ _, ordinary_styleBindings _ _,
    .of_plain (plain_outputBindings _ _) _ _⟩

end EditRequest

namespace AnimationRequest

theorem plain_assetBindings (node : Option String) {input : String} (hinput : '.' ∉ input.toList)
    (filename : Option String) : ∀ b ∈ assetBindings node input filename, b.Plain := by
  unfold assetBindings
  split <;> simp [hinput]

theorem plain_shiftBindings (template : Graph) (shift : Option Float) :
    ∀ b ∈ Animation.shiftBindings template shift, b.Plain := by
  unfold Animation.shiftBindings
  split
  · simp
  · simp only [List.forall_mem_map]
    exact fun e _ => Binding.plain_set (by simp) rfl

theorem ordinary_highNoiseBindings {r : AnimationRequest} {settings : Settings} {s : ModeSpec}
    {bs : List Binding} {replaced : List String} (h : r.highNoiseBindings settings s = .ok bs)
    (hreplaced : (r.highNoise? settings).isSome → s.modelLoader ∈ replaced) :
    ∀ b ∈ bs, b.Ordinary s replaced := by
  unfold highNoiseBindings at h
  cases hm : r.highNoise? settings with
  | none =>
    simp only [hm] at h
    cases h
    simp
  | some m =>
    simp only [hm] at h
    exact ordinary_modelBindings h (hreplaced (by simp [hm]))

theorem Planned.ordinary {r : AnimationRequest} {c : JobContext} {reply : Option EnhancerReply}
    {p : Plan} (h : r.Planned c reply p) {s : ModeSpec} (hspec : modeSpec .wan .animation = .ok s) :
    ∀ b ∈ p.bindings,
      b.Ordinary s (s.replacedLoaders .wan ((JobRequest.animation r).extent c)) := by
  obtain @⟨s', _, _, _, _, _, _, hspec', -, -, hfirst, hsecond, himage, hsamplers⟩ := h
  obtain rfl : s' = s := Except.ok.inj (hspec'.symm.trans hspec)
  have hmode : s'.mode = .animation := (mem_modes_of_modeSpec hspec').2
  simp only [List.forall_mem_append, and_assoc]
  exact ⟨ordinary_highNoiseBindings hfirst fun hhigh =>
      modelLoader_mem_replacedLoaders hhigh (by simp [hmode]),
    ordinary_secondaryBindings hsecond fun hlow _ =>
      secondaryLoader_mem_replacedLoaders hlow (by simp [hmode]),
    .of_plain (plain_assetBindings _ (by simp) _) _ _,
    .of_plain (plain_assetBindings _ (by simp) _) _ _,
    .of_plain (plain_assetBindings _ (by simp) _) _ _,
    .of_plain (plain_imageBindings himage) _ _, .of_plain (plain_promptBindings _ _ _) _ _,
    .of_plain (plain_samplerBindings hsamplers) _ _, .of_plain (by simp [Scene.bindings]) _ _,
    .of_plain (plain_shiftBindings _ _) _ _, .of_plain (plain_outputBindings _ _) _ _⟩

end AnimationRequest

namespace JobRequest

variable {r : JobRequest} {c : JobContext} {reply : Option EnhancerReply}

/-- What a job binds after its stitching is ordinary. -/
theorem ordinary_of_plan {p : Plan} (hp : r.plan c reply = .ok p) {family : Family} {s : ModeSpec}
    {l start : Layout} (h : p.Follows r.mode (r.extent c) family s l start) {bs : List Binding}
    (hbindings : p.bindings = s.stitchBindings family (r.extent c).images l.graph ++ bs) :
    ∀ b ∈ bs, b.Ordinary s (s.replacedLoaders family (r.extent c)) := by
  have hmem : bs ⊆ p.bindings := by
    rw [hbindings]
    exact List.subset_append_right _ _
  cases r with
  | generation r =>
    exact fun b hb => (GenerationRequest.plan_eq_ok_iff.1 hp).ordinary h.ofFamily h.spec b (hmem hb)
  | variation r =>
    exact fun b hb => (VariationRequest.plan_eq_ok_iff.1 hp).ordinary h.ofFamily h.spec b (hmem hb)
  | upscale r =>
    exact fun b hb => (UpscaleRequest.plan_eq_ok_iff.1 hp).ordinary h.ofFamily h.spec b (hmem hb)
  | edit r =>
    rcases EditRequest.plan_eq_ok_iff.1 hp with ⟨-, hflux⟩ | ⟨-, hqwen⟩
    · obtain rfl : .flux = family := Option.some.inj (hflux.family_eq.symm.trans h.ofFamily)
      exact hflux.ordinary h.spec h.sound.graph hbindings
    · obtain rfl : .qwen = family := Option.some.inj (hqwen.family_eq.symm.trans h.ofFamily)
      exact fun b hb => hqwen.ordinary h.spec _ b (hmem hb)
  | animation r =>
    have hanimation := AnimationRequest.plan_eq_ok_iff.1 hp
    obtain rfl : .wan = family := by
      obtain ⟨⟩ := hanimation
      exact Option.some.inj h.ofFamily
    exact fun b hb => hanimation.ordinary h.spec b (hmem hb)

end JobRequest

end Renderflow
