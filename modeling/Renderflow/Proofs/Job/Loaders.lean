import Renderflow.Proofs.Job.Ordinary

/-!
# The outputs of the loaders

A job puts loaders of its family in the place of those of its template. The loaders of a family
put out the same, so what the rest of the graph takes from them is there for every model file.
-/

namespace Renderflow

/-- What a loader puts out, output by output. A checkpoint holds a text encoder and a decoder
besides its model. -/
def loaderOutputs : String → List String
  | "UNETLoader" | "UnetLoaderGGUF" => ["MODEL"]
  | "CheckpointLoaderSimple" => ["MODEL", "CLIP", "VAE"]
  | _ => []

/-- What the loaders of a family put out. -/
def Family.loaderOutputs : Family → List String
  | flux | wan => ["MODEL"]
  | sdxl | qwen => ["MODEL", "CLIP", "VAE"]

theorem Model.outputs_loader {m : Model} {n : Node} (h : m.loader = .ok n) :
    loaderOutputs n.classType = m.family.loaderOutputs := by
  unfold loader at h
  split at h
  all_goals
    rename_i hfamily _
    cases h
  all_goals
    rw [hfamily]
    rfl

theorem EditRequest.outputs_fluxLoader (filename : String) :
    loaderOutputs (fluxLoader filename).classType = Family.flux.loaderOutputs := by
  unfold fluxLoader
  split <;> rfl

/-! ## What a run of edits keeps of a label -/

/-- A label that every edit gives keeps a property if the label before the run had it. -/
theorem Graph.exists_label?_applyAll {P : String × Option String → Prop} {g g' : Graph}
    {es : List Edit} (h : g.applyAll es = .ok g') {id : String}
    (hes : ∀ e ∈ es, ∀ label, e.relabeled? id = some label → P label)
    (hg : ∃ label, g.label? id = some label ∧ P label) :
    ∃ label, g'.label? id = some label ∧ P label := by
  induction es generalizing g with
  | nil =>
    cases h
    exact hg
  | cons e es ih =>
    obtain ⟨g₁, he, hrest⟩ := Graph.applyAll_cons_eq_ok_iff.1 h
    refine ih hrest (fun d hd => hes d (List.mem_cons_of_mem e hd)) ?_
    rw [Graph.label?_apply he]
    cases hlabel : e.relabeled? id with
    | none => simpa using hg
    | some label => exact ⟨label, rfl, hes e List.mem_cons_self label hlabel⟩

/-! ## The catalog -/

/-- The loaders of the model files of a mode. -/
def ModeSpec.loaders (s : ModeSpec) : List String :=
  s.modelLoader :: s.secondaryLoader.toList

/-- The loaders of a mode put out what those of its family do, nothing else is taken from them,
and the LoRA node takes its text encoder where the family has it. -/
structure Graph.LoadsAs (g : Graph) (s : ModeSpec) (family : Family) : Prop where
  outputs : ∀ loader ∈ s.loaders, ∃ label, g.label? loader = some label ∧
    loaderOutputs label.1 = family.loaderOutputs
  taken : ∀ loader ∈ s.loaders, ∀ id name source, g.link? id name = some source →
    source.node = loader → source.output.toNat < family.loaderOutputs.length
  encoder : ∀ lora, s.lora = some lora → (s.encoderOutput family).isSome ∧
    g.link? lora "clip" = s.encoderOutput family

section

attribute [local instance] Text.decideEq

/-- Checks the loaders of a mode in the layout that a job starts from. -/
def ModeSpec.loadsAs (s : ModeSpec) (family : Family) (images : Nat) : Bool :=
  (s.layout? family images).any fun l =>
    s.loaders.all (fun loader =>
      ((l.node? loader).any fun n => loaderOutputs n.classType = family.loaderOutputs) &&
        l.all fun e => e.2.inputs.all fun input => input.2.link?.all fun source =>
          source.node ≠ loader || source.output.toNat < family.loaderOutputs.length) &&
      s.lora.all fun lora => (s.encoderOutput family).isSome &&
        (l.value? lora "clip").bind Value.link? = s.encoderOutput family

theorem loadsAs_of_mem_modes (family : Family) : ∀ s ∈ family.spec.modes, s.loadsAs family 1 := by
  cases family <;> decide +kernel

theorem loadsAs_edit : ∀ images ∈ [2, 3, 4], Catalog.Flux.edit.loadsAs .flux images := by
  decide

end

theorem ModeSpec.Sound.loadsAs {s : ModeSpec} {family : Family} {images : Nat} {l start : Layout}
    (h : s.Sound family images l start) (hcheck : s.loadsAs family images) :
    start.graph.LoadsAs s family := by
  simp only [ModeSpec.loadsAs, h.start, Option.any_some, Bool.and_eq_true, List.all_eq_true,
    Option.all_eq_true, Option.any_eq_true, decide_eq_true_eq, Bool.or_eq_true] at hcheck
  obtain ⟨hloaders, hlora⟩ := hcheck
  refine ⟨fun loader hloader => ?_, fun loader hloader id name source hlink hsource => ?_,
    fun lora hs => ?_⟩
  · obtain ⟨n, hn, houtputs⟩ := (hloaders loader hloader).1
    exact ⟨(n.classType, some n.title), by rw [Layout.label?_graph, hn]; rfl, houtputs⟩
  · rw [Layout.link?_graph] at hlink
    obtain ⟨v, hv, hlink⟩ := Option.bind_eq_some_iff.1 hlink
    obtain ⟨n, hn, hname⟩ := Option.bind_eq_some_iff.1 hv
    have htaken := (hloaders loader hloader).2 (id, n) (Table.mem_of_last? hn) (name, v)
      (Table.mem_of_last? hname) source hlink
    exact htaken.resolve_left (not_not_intro hsource)
  · obtain ⟨hsome, hclip⟩ := hlora lora hs
    exact ⟨hsome, by rw [Layout.link?_graph, hclip]⟩

/-- The layout that a job starts from has the loaders of its family. -/
theorem ModeSpec.Sound.start_loadsAs {s : ModeSpec} {family : Family} {mode : Mode} {images : Nat}
    {l start : Layout} (h : s.Sound family images l start) (hspec : modeSpec family mode = .ok s)
    (himages : mode.admits family images) : start.graph.LoadsAs s family :=
  h.loadsAs (forall_admitted (P := fun s family images => s.loadsAs family images)
    loadsAs_of_mem_modes loadsAs_edit hspec himages)

/-! ## The bindings of a job -/

/-- A binding that puts nothing but a loader of a family in the place of a node. -/
def Binding.Reloads (family : Family) (b : Binding) : Prop :=
  ∀ id label, b.edit.relabeled? id = some label → loaderOutputs label.1 = family.loaderOutputs

section

variable {s : ModeSpec} {family : Family} {bs : List Binding}

theorem Binding.Plain.reloads {b : Binding} (h : b.Plain) (family : Family) : b.Reloads family := by
  intro id label hlabel
  cases h with
  | set | connect => cases hlabel

theorem Binding.Reloads.of_plain (h : ∀ b ∈ bs, b.Plain) (family : Family) :
    ∀ b ∈ bs, b.Reloads family :=
  fun b hb => (h b hb).reloads family

theorem Binding.Reloads.loader {n : Node} (hn : loaderOutputs n.classType = family.loaderOutputs)
    (node input filename : String) : (Binding.loader node n input filename).Reloads family := by
  intro id label hlabel
  obtain ⟨-, rfl⟩ := by simpa [Binding.loader, Edit.relabeled?] using hlabel
  exact hn

namespace ModeSpec

theorem reloads_modelBindings {m : Model} (h : s.modelBindings m = .ok bs) :
    ∀ b ∈ bs, b.Reloads m.family := by
  obtain ⟨n, hn, hbs⟩ := bind_eq_ok_iff.1 h
  cases hbs
  simpa using Binding.Reloads.loader (Model.outputs_loader hn) s.modelLoader "model" m.filename

theorem reloads_secondaryBindings {filename : Option String}
    (h : s.secondaryBindings family filename = .ok bs) : ∀ b ∈ bs, b.Reloads family := by
  unfold secondaryBindings at h
  split at h
  case h_2 =>
    cases h
    simp
  case h_1 node name hnode hname =>
    obtain ⟨n, hn, hbs⟩ := bind_eq_ok_iff.1 h
    cases hbs
    simpa using Binding.Reloads.loader (Model.outputs_loader hn) node "model" name

theorem reloads_styleBindings (s : ModeSpec) (style : ResolvedStyle) (family : Family) :
    ∀ b ∈ s.styleBindings style, b.Reloads family := by
  cases hlora : s.lora with
  | none => simp [styleBindings, hlora, ifRole]
  | some lora =>
    simp only [styleBindings, hlora, ifRole, ResolvedStyle.edits, List.map_map, List.forall_mem_map]
    intro e he id label hlabel
    cases hlabel

/-- The bindings of a generation or of a variation. -/
theorem reloads_of_rendering {model : Model} {low : Option String} {template : Graph} {p : Sampling}
    {loaders second lora samplers source : List Binding}
    (hloaders : s.modelBindings model = .ok loaders)
    (hsecond : s.secondaryBindings model.family low = .ok second)
    (hlora : s.loraBindings model.family = .ok lora)
    (hsamplers : s.samplerBindings template p = .ok samplers) (hsource : ∀ b ∈ source, b.Plain)
    (settings : Settings) (positive negative : String) (style : ResolvedStyle) (stem : String) :
    ∀ b ∈ loaders ++ second ++ lora ++ s.fluxClipBindings model.family settings ++ samplers ++
        source ++ s.promptBindings positive negative ++ s.styleBindings style ++
        s.outputBindings stem, b.Reloads model.family := by
  simp only [List.forall_mem_append, and_assoc]
  exact ⟨reloads_modelBindings hloaders, reloads_secondaryBindings hsecond,
    .of_plain (plain_loraBindings hlora) _, .of_plain (plain_fluxClipBindings _ _ _) _,
    .of_plain (plain_samplerBindings hsamplers) _, .of_plain hsource _,
    .of_plain (plain_promptBindings _ _ _) _, reloads_styleBindings _ _ _,
    .of_plain (plain_outputBindings _ _) _⟩

end ModeSpec

end

/-! ## The bindings by request -/

open ModeSpec

theorem GenerationRequest.Planned.reloads {r : GenerationRequest} {c : JobContext} {p : Plan}
    (h : r.Planned c p) {family : Family} (hfamily : p.details.family = some family) :
    ∀ b ∈ p.bindings, b.Reloads family := by
  obtain @⟨model, start, _, _, _, _, _, _, _, _, -, -, -, -, -, hloaders, hsecond, hlora,
    hsamplers, hsource⟩ := h
  obtain rfl : model.family = family := by
    cases start <;> simpa [details, Start.record] using hfamily
  exact reloads_of_rendering hloaders hsecond hlora hsamplers (plain_start_bindings hsource)
    _ _ _ _ _

theorem VariationRequest.Planned.reloads {r : VariationRequest} {c : JobContext} {p : Plan}
    (h : r.Planned c p) {family : Family} (hfamily : p.details.family = some family) :
    ∀ b ∈ p.bindings, b.Reloads family := by
  obtain @⟨model, _, _, _, _, _, _, _, _, -, -, -, -, hloaders, hsecond, hlora, hsamplers,
    himage⟩ := h
  obtain rfl : model.family = family := by simpa [details] using hfamily
  exact reloads_of_rendering hloaders hsecond hlora hsamplers (plain_imageBindings himage)
    _ _ _ _ _

theorem UpscaleRequest.Planned.reloads {r : UpscaleRequest} {c : JobContext} {p : Plan}
    (h : r.Planned c p) {family : Family} (hfamily : p.details.family = some family) :
    ∀ b ∈ p.bindings, b.Reloads family := by
  obtain @⟨model, _, _, _, _, _, _, _, _, -, -, -, -, -, -, hloaders, hlora, himage⟩ := h
  obtain rfl : model.family = family := by simpa [details] using hfamily
  simp only [List.forall_mem_append, and_assoc]
  exact ⟨reloads_modelBindings hloaders, .of_plain (plain_loraBindings hlora) _,
    .of_plain (plain_fluxClipBindings _ _ _) _, .of_plain (by simp) _,
    .of_plain (plain_imageBindings himage) _, .of_plain (plain_promptBindings _ _ _) _,
    reloads_styleBindings _ _ _, .of_plain (plain_outputBindings _ _) _⟩

namespace EditRequest

/-- After its stitching, a Flux edit binds nothing else that replaces a node. -/
theorem FluxPlanned.reloads {r : EditRequest} {c : JobContext} {p : Plan} (h : r.FluxPlanned c p)
    {s : ModeSpec} (hspec : modeSpec .flux .edit = .ok s) {template : Graph}
    (htemplate : s.graph = .ok template) {bs : List Binding}
    (hbindings : p.bindings = s.stitchBindings .flux r.images.length template ++ bs) :
    ∀ b ∈ bs, b.Reloads .flux := by
  obtain @⟨s', images, model, _, _, template', first, _, _, hspec', -, -, -, -, -,
    htemplate', hfirst, hsamplers, hlatent⟩ := h
  obtain rfl : s' = s := Except.ok.inj (hspec'.symm.trans hspec)
  obtain rfl : template' = template := Except.ok.inj (htemplate'.symm.trans htemplate)
  simp only [stitchBindings_edit hspec hfirst, List.append_assoc,
    List.append_cancel_left_eq] at hbindings
  subst hbindings
  simp only [List.forall_mem_append, List.forall_mem_cons]
  exact ⟨⟨.loader (outputs_fluxLoader model) _ _ _, (Binding.plain_set (by simp) rfl).reloads _,
      by simp⟩,
    .of_plain (plain_fluxClipBindings _ _ _) _, .of_plain (plain_locationBindings _) _,
    .of_plain (plain_samplerBindings hsamplers) _, .of_plain (plain_latentBindings hlatent) _,
    .of_plain (plain_promptBindings _ _ _) _, .of_plain (plain_outputBindings _ _) _⟩

theorem QwenPlanned.reloads {r : EditRequest} {c : JobContext} {p : Plan} (h : r.QwenPlanned c p) :
    ∀ b ∈ p.bindings, b.Reloads .qwen := by
  obtain ⟨-, -, -, -, -, hlora, hsamplers, himage⟩ := h
  simp only [List.forall_mem_append, and_assoc]
  exact ⟨.of_plain (by simp) _, .of_plain (plain_loraBindings hlora) _,
    .of_plain (plain_samplerBindings hsamplers) _, .of_plain (plain_imageBindings himage) _,
    .of_plain (plain_promptBindings _ _ _) _, reloads_styleBindings _ _ _,
    .of_plain (plain_outputBindings _ _) _⟩

end EditRequest

namespace AnimationRequest

/-- A model that an animation can read is one of WAN. -/
theorem family_of_highNoise? {r : AnimationRequest} {settings : Settings} {m : Model}
    (h : r.highNoise? settings = some m) : m.family = .wan := by
  obtain ⟨candidate, -, hcandidate⟩ := List.exists_of_findSome?_eq_some h
  obtain ⟨filename, -, hreadable⟩ := Option.bind_eq_some_iff.1 hcandidate
  simp only [Animation.readable?] at hreadable
  split at hreadable <;> cases hreadable
  rfl

theorem reloads_highNoiseBindings {r : AnimationRequest} {settings : Settings} {s : ModeSpec}
    {bs : List Binding} (h : r.highNoiseBindings settings s = .ok bs) :
    ∀ b ∈ bs, b.Reloads .wan := by
  unfold highNoiseBindings at h
  cases hm : r.highNoise? settings with
  | none =>
    simp only [hm] at h
    cases h
    simp
  | some m =>
    simp only [hm] at h
    rw [← family_of_highNoise? hm]
    exact reloads_modelBindings h

theorem Planned.reloads {r : AnimationRequest} {c : JobContext} {reply : Option EnhancerReply}
    {p : Plan} (h : r.Planned c reply p) : ∀ b ∈ p.bindings, b.Reloads .wan := by
  obtain ⟨-, -, -, hfirst, hsecond, himage, hsamplers⟩ := h
  simp only [List.forall_mem_append, and_assoc]
  exact ⟨reloads_highNoiseBindings hfirst, reloads_secondaryBindings hsecond,
    .of_plain (plain_assetBindings _ (by simp) _) _,
    .of_plain (plain_assetBindings _ (by simp) _) _,
    .of_plain (plain_assetBindings _ (by simp) _) _, .of_plain (plain_imageBindings himage) _,
    .of_plain (plain_promptBindings _ _ _) _, .of_plain (plain_samplerBindings hsamplers) _,
    .of_plain (by simp [Scene.bindings]) _, .of_plain (plain_shiftBindings _ _) _,
    .of_plain (plain_outputBindings _ _) _⟩

end AnimationRequest

namespace JobRequest

variable {r : JobRequest} {c : JobContext} {reply : Option EnhancerReply}

/-- The number of images that a planned request shows is admitted by its mode. -/
theorem admits_of_plan {p : Plan} (hp : r.plan c reply = .ok p) {family : Family}
    (hfamily : p.details.family = some family) : r.mode.admits family (r.extent c).images := by
  cases r with
  | generation r | variation r | upscale r | animation r => exact .inl rfl
  | edit r =>
    rcases EditRequest.plan_eq_ok_iff.1 hp with ⟨-, hflux⟩ | ⟨-, hqwen⟩
    · obtain rfl : .flux = family := Option.some.inj (hflux.family_eq.symm.trans hfamily)
      obtain ⟨-, hcount⟩ := hflux
      exact .inr ⟨rfl, rfl, EditRequest.checkCount_ok hcount⟩
    · obtain ⟨-, hcount⟩ := hqwen
      have hone := EditRequest.checkCount_ok hcount
      exact .inl (Nat.le_antisymm hone.2 hone.1)

/-- What a job binds after its stitching puts nothing but loaders of its family into the graph. -/
theorem reloads_of_plan {p : Plan} (hp : r.plan c reply = .ok p) {family : Family} {s : ModeSpec}
    {l start : Layout} (h : p.Follows r.mode (r.extent c) family s l start) {bs : List Binding}
    (hbindings : p.bindings = s.stitchBindings family (r.extent c).images l.graph ++ bs) :
    ∀ b ∈ bs, b.Reloads family := by
  have hmem : bs ⊆ p.bindings := by
    rw [hbindings]
    exact List.subset_append_right _ _
  cases r with
  | generation r =>
    exact fun b hb => (GenerationRequest.plan_eq_ok_iff.1 hp).reloads h.ofFamily b (hmem hb)
  | variation r =>
    exact fun b hb => (VariationRequest.plan_eq_ok_iff.1 hp).reloads h.ofFamily b (hmem hb)
  | upscale r =>
    exact fun b hb => (UpscaleRequest.plan_eq_ok_iff.1 hp).reloads h.ofFamily b (hmem hb)
  | edit r =>
    rcases EditRequest.plan_eq_ok_iff.1 hp with ⟨-, hflux⟩ | ⟨-, hqwen⟩
    · obtain rfl : .flux = family := Option.some.inj (hflux.family_eq.symm.trans h.ofFamily)
      exact hflux.reloads h.spec h.sound.graph hbindings
    · obtain rfl : .qwen = family := Option.some.inj (hqwen.family_eq.symm.trans h.ofFamily)
      exact fun b hb => hqwen.reloads b (hmem hb)
  | animation r =>
    have hanimation := AnimationRequest.plan_eq_ok_iff.1 hp
    obtain rfl : .wan = family := by
      obtain ⟨⟩ := hanimation
      exact Option.some.inj h.ofFamily
    exact fun b hb => hanimation.reloads b (hmem hb)

/-- A node of a compiled job has a class that loads nothing only if it had it from the start. -/
theorem label?_start_of_compile {x : Compiled} (h : r.compile c reply = .ok x) {family : Family}
    (hrecorded : x.details.family = some family) {s : ModeSpec}
    (hspec : modeSpec family r.mode = .ok s) {l start : Layout}
    (hsound : s.Sound family (r.extent c).images l start) {classType : String}
    (hclass : loaderOutputs classType = []) {id : String} {title : Option String}
    (hlabel : x.graph.label? id = some (classType, title)) :
    ∃ title', start.graph.label? id = some (classType, title') := by
  obtain ⟨p, planned, s', l', start', _, hp, hfollows, hx, hrecord⟩ := exists_plan_of_compile h
  obtain rfl : planned = family := by
    rw [hrecord] at hrecorded
    exact Option.some.inj (hfollows.ofFamily.symm.trans hrecorded)
  obtain rfl : s = s' := Except.ok.inj (hspec.symm.trans hfollows.spec)
  obtain rfl : start = start' := Option.some.inj (hsound.start.symm.trans hfollows.sound.start)
  obtain ⟨bs, hbindings, hall, hbound, -⟩ := hfollows.exists_bound hx
  have hreloads := reloads_of_plan hp hfollows hbindings
  have hfamily : planned.loaderOutputs ≠ [] := by cases planned <;> simp [Family.loaderOutputs]
  have hedits : ∀ e ∈ bs.map (·.edit), ∀ label, e.relabeled? id = some label →
      label.1 ≠ classType := by
    simp only [List.forall_mem_map]
    rintro b hb label hrelabeled rfl
    exact hfamily (hreloads b hb id label hrelabeled ▸ hclass)
  have hcontains : start.graph.contains id := by
    rw [← hbound.wiring.contains id, Graph.contains_eq_isSome_label?, hlabel]
    rfl
  rw [Graph.contains_eq_isSome_label?] at hcontains
  obtain ⟨⟨first, title'⟩, hfirst⟩ := Option.isSome_iff_exists.1 hcontains
  obtain rfl | hne := eq_or_ne first classType
  · exact ⟨title', hfirst⟩
  · obtain ⟨label, hkept, hother⟩ :=
      Graph.exists_label?_applyAll hall hedits ⟨(first, title'), hfirst, hne⟩
    rw [hlabel] at hkept
    exact absurd (congrArg Prod.fst (Option.some.inj hkept)).symm hother

/-- A compiled job has the loaders of its family. -/
theorem loadsAs_of_compile {x : Compiled} (h : r.compile c reply = .ok x) :
    ∃ family s, x.details.family = some family ∧ modeSpec family r.mode = .ok s ∧
      x.graph.LoadsAs s family := by
  obtain ⟨p, family, s, l, start, notes, hp, hfollows, hx, hrecord⟩ := exists_plan_of_compile h
  obtain ⟨bs, hbindings, hall, hbound, -⟩ := hfollows.exists_bound hx
  have hreloads := reloads_of_plan hp hfollows hbindings
  have hstart := hfollows.sound.start_loadsAs hfollows.spec (admits_of_plan hp hfollows.ofFamily)
  rw [hrecord]
  refine ⟨family, s, hfollows.ofFamily, hfollows.spec, fun loader hloader => ?_, ?_, ?_⟩
  · apply Graph.exists_label?_applyAll hall _ (hstart.outputs loader hloader)
    simp only [List.forall_mem_map]
    exact fun b hb => hreloads b hb loader
  -- the links of the LoRA node and those from the loaders are in the layout from the start
  · simp only [hbound.wiring.link?]
    exact hstart.taken
  · simp only [hbound.wiring.link?]
    exact hstart.encoder

/-- Every connection from a loader of a compiled job takes an output that the class of the loader
has, whatever files the job loads. The LoRA node takes the text encoder from the CLIP loader, or
from the checkpoint where the family has one. -/
theorem compile_loader_outputs {x : Compiled} (h : r.compile c reply = .ok x) :
    ∃ family s, x.details.family = some family ∧ modeSpec family r.mode = .ok s ∧
      (∀ loader ∈ s.loaders, ∃ classType title,
        x.graph.label? loader = some (classType, title) ∧
        loaderOutputs classType = family.loaderOutputs ∧
        ∀ id name source, x.graph.link? id name = some source → source.node = loader →
          source.output.toNat < (loaderOutputs classType).length) ∧
      ∀ lora, s.lora = some lora →
        match family with
        | .flux | .wan =>
          ∃ clip, s.clipLoader = some clip ∧ x.graph.link? lora "clip" = some ⟨clip, 0⟩
        | .sdxl | .qwen => x.graph.link? lora "clip" = some ⟨s.modelLoader, 1⟩ := by
  obtain ⟨family, s, hfamily, hspec, hloads⟩ := loadsAs_of_compile h
  refine ⟨family, s, hfamily, hspec, fun loader hloader => ?_, fun lora hlora => ?_⟩
  · obtain ⟨⟨classType, title⟩, hlabel, houtputs⟩ := hloads.outputs loader hloader
    refine ⟨classType, title, hlabel, houtputs, ?_⟩
    rw [houtputs]
    exact hloads.taken loader hloader
  · obtain ⟨hencoder, hclip⟩ := hloads.encoder lora hlora
    cases family with
    | flux | wan =>
      obtain ⟨clip, hs⟩ : ∃ clip, s.clipLoader = some clip := by
        simpa [ModeSpec.encoderOutput, Option.isSome_iff_exists] using hencoder
      exact ⟨clip, hs, by simp [hclip, ModeSpec.encoderOutput, hs]⟩
    | sdxl | qwen => exact hclip

/-- A generation whose two stages load files of different kinds is compiled. -/
theorem compile_loader_outputs_two_stages :
    ∃ x, (generation { model := some "WAN: high.safetensors" }).compile sampleContext = .ok x ∧
      ∃ family s, x.details.family = some family ∧ modeSpec family .txt2img = .ok s ∧
        (∀ loader ∈ s.loaders, ∃ classType title,
          x.graph.label? loader = some (classType, title) ∧
          loaderOutputs classType = family.loaderOutputs ∧
          ∀ id name source, x.graph.link? id name = some source → source.node = loader →
            source.output.toNat < (loaderOutputs classType).length) ∧
        ∀ lora, s.lora = some lora →
          match family with
          | .flux | .wan =>
            ∃ clip, s.clipLoader = some clip ∧ x.graph.link? lora "clip" = some ⟨clip, 0⟩
          | .sdxl | .qwen => x.graph.link? lora "clip" = some ⟨s.modelLoader, 1⟩ := by
  obtain ⟨x, hx⟩ := exists_compile_of_plan
    (generation { model := some "WAN: high.safetensors" }) sampleContext none (by decide)
  exact ⟨x, hx, compile_loader_outputs hx⟩

end JobRequest

end Renderflow
