import Renderflow.Job.Animation
import Renderflow.Proofs.Job.Footprint

/-!
# The catalog fits its templates

For every mode, what a job may write is there in the template, keeps apart from each other
and restates the wiring, and the graph is wired. The tables are checked by evaluation.
-/

namespace Renderflow

section

attribute [local instance] Text.decideEq

instance decideApart : DecidableRel Footprint.Apart
  | .input node name _, .input node' name' _ =>
    inferInstanceAs (Decidable (node ≠ node' ∨ name ≠ name'))
  | .input node _ _, .whole node' _ => inferInstanceAs (Decidable (node ≠ node'))
  | .whole node _, .input node' _ _ => inferInstanceAs (Decidable (node ≠ node'))
  | .whole node _, .whole node' _ => inferInstanceAs (Decidable (node ≠ node'))

instance decideCovers (f : Footprint) (id input : String) : Decidable (f.Covers id input) :=
  match f with
  | .input node name _ => inferInstanceAs (Decidable (id = node ∧ input = name))
  | .whole node _ => inferInstanceAs (Decidable (id = node))

instance decideCoversNode (f : Footprint) (id : String) : Decidable (f.CoversNode id) :=
  match f with
  | .input .. => inferInstanceAs (Decidable False)
  | .whole node _ => inferInstanceAs (Decidable (id = node))

namespace ModeSpec

/-- The mode has the nodes that its job cannot do without. -/
def hasRoles (s : ModeSpec) (family : Family) : Bool :=
  (s.lora.isNone || (s.encoderOutput family).isSome) &&
    (s.initialSampler.isNone || s.guidance.isNone) &&
    match s.mode, family with
    | .txt2img, _ => s.latent.isSome && s.loadImage.isNone && s.encode.isNone
    | .upscale, _ =>
      s.latent.isSome && s.loadImage.isSome && s.encode.isNone && s.upscaleLoader.isSome &&
        s.initialSampler.isNone && s.guidance.isNone
    | .edit, .flux => s.latent.isSome && s.vaeLoader.isSome
    | .animation, _ => s.latent.isSome && s.loadImage.isSome && s.encode.isNone
    | _, _ => s.loadImage.isSome

/-- A sampler is there, and its class tells which of its inputs takes the seed. -/
def seedsRight (s : ModeSpec) (l : Layout) (node : String) : Bool :=
  match l.node? node with
  | none => false
  | some n => decide (n.classType = "KSamplerAdvanced") == s.initialSampler.isSome

/-- A sampler holds its steps as a whole number, its guidance and its denoise. -/
def isTuned (l : Layout) (node : String) : Bool :=
  (match l.value? node "steps" with
    | some (.int n) => (Float.ofInt n.toInt).toUInt32.toNat = n.toInt
    | _ => false) &&
    ((l.value? node "cfg").bind Value.asFloat?).isSome &&
    ((l.value? node "denoise").bind Value.asFloat?).isSome

/-- What else a mode needs of its layouts. -/
def suits (s : ModeSpec) (family : Family) (images : Nat) (fs : List Footprint)
    (l base : Layout) : Bool :=
  match s.mode, family with
  | .upscale, _ => isTuned l s.sampler && ["steps", "cfg", "denoise"].all fun input =>
      fs.all fun f => !decide (f.Covers s.sampler input)
  | .edit, .flux =>
    (l.node? "load_image_1").isSome && (base.node? "image_resizer").isSome &&
      (base.node? (Stitch.result images)).isSome
  | .edit, _ =>
    (base.value? s.modelLoader "unet_name").isNone &&
      fs.all fun f => !decide (f.Covers s.modelLoader "unet_name")
  | .animation, _ => l.all fun e =>
      !Animation.shiftClasses.contains e.2.classType ||
        decide (e.1 ∈ ["wan_shift_high", "wan_shift_low"])
  | _, _ => true

/-- What is checked of a mode, the layout of its template and the one its job starts from. -/
def check (s : ModeSpec) (family : Family) (images : Nat) (l base : Layout) : Bool :=
  let fs := s.footprint family { images }
  base.wired (s.nodes ++ s.added family images) s.roleNodes s.save && fs.all base.fits &&
    decide (fs.Pairwise Footprint.Apart) && s.hasRoles family &&
    s.samplers.all (fun node => s.seedsRight l node && s.seedsRight base node) &&
    s.samplers.all (fun node => fs.all fun f => !decide (f.CoversNode node)) &&
    (family != .flux ||
      (s.reach family { images }).all fun f => !decide (f.Covers s.sampler "cfg")) &&
    s.suits family images fs l base

/-- A mode whose template is there and passes the check. -/
def isSound (s : ModeSpec) (family : Family) (images : Nat) : Bool :=
  match Template.layout? s.template, s.layout? family images with
  | some l, some base => s.check family images l base
  | _, _ => false

end ModeSpec

end

theorem flux_isSound : ∀ s ∈ Catalog.flux.modes, s.isSound .flux 1 := by
  decide +kernel

theorem wan_isSound : ∀ s ∈ Catalog.wan.modes, s.isSound .wan 1 := by
  decide +kernel

theorem sdxl_isSound : ∀ s ∈ Catalog.sdxl.modes, s.isSound .sdxl 1 := by
  decide +kernel

theorem qwen_isSound : ∀ s ∈ Catalog.qwen.modes, s.isSound .qwen 1 := by
  decide +kernel

theorem edit_isSound : ∀ images ∈ [2, 3, 4], Catalog.Flux.edit.isSound .flux images := by
  decide +kernel

namespace ModeSpec

/-- What holds of a mode of the catalog, the layout of its template and the one its job
starts from. -/
structure Sound (s : ModeSpec) (family : Family) (images : Nat) (l base : Layout) : Prop where
  template : Template.layout? s.template = some l
  start : s.layout? family images = some base
  wired : base.graph.Wired (s.nodes ++ s.added family images) s.roleNodes s.save
  fits : ∀ f ∈ s.footprint family { images }, f.Fits base.graph
  apart : (s.footprint family { images }).Pairwise Footprint.Apart
  roles : s.hasRoles family
  seeds : ∀ node ∈ s.samplers, s.seedsRight l node ∧ s.seedsRight base node
  samplers : ∀ node ∈ s.samplers, ∀ f ∈ s.footprint family { images }, ¬ f.CoversNode node
  cfg : family = .flux → ∀ f ∈ s.reach family { images }, ¬ f.Covers s.sampler "cfg"
  suits : s.suits family images (s.footprint family { images }) l base

theorem sound_of_isSound {s : ModeSpec} {family : Family} {images : Nat}
    (h : s.isSound family images) : ∃ l base, s.Sound family images l base := by
  unfold isSound at h
  cases hl : Template.layout? s.template with
  | none => simp [hl] at h
  | some l =>
    cases hbase : s.layout? family images with
    | none => simp [hl, hbase] at h
    | some base =>
      simp only [hl, hbase, check, Bool.and_eq_true, List.all_eq_true, decide_eq_true_eq,
        Bool.not_eq_true', decide_eq_false_iff_not, Bool.or_eq_true, bne_iff_ne] at h
      obtain ⟨⟨⟨⟨⟨⟨⟨hwired, hfits⟩, hapart⟩, hroles⟩, hseeds⟩, hsamplers⟩, hcfg⟩, hsuits⟩ := h
      exact ⟨l, base, hl, hbase, Layout.wired_graph hwired,
        fun f hf => Layout.fits_graph (hfits f hf), hapart, hroles, hseeds, hsamplers,
        fun hfamily => hcfg.resolve_left (not_not_intro hfamily), hsuits⟩

end ModeSpec

theorem mem_modes_of_modeSpec {family : Family} {mode : Mode} {s : ModeSpec}
    (h : modeSpec family mode = .ok s) : s ∈ family.spec.modes ∧ s.mode = mode := by
  unfold modeSpec at h
  cases hs : family.spec.modes.find? fun s => s.mode = mode with
  | none => simp [hs] at h
  | some t =>
    obtain rfl : t = s := by simpa [hs] using h
    exact ⟨List.mem_of_find?_eq_some hs, by simpa using List.find?_some hs⟩

/-- The number of images that a job of a mode may show. -/
def Mode.admits (mode : Mode) (family : Family) (images : Nat) : Prop :=
  images = 1 ∨ mode = .edit ∧ family = .flux ∧ 1 ≤ images ∧ images ≤ 4

/-- What holds of every mode with one image, and of a Flux edit with more, holds of every job
that a mode admits. -/
theorem forall_admitted {P : ModeSpec → Family → Nat → Prop}
    (hmodes : ∀ family : Family, ∀ s ∈ family.spec.modes, P s family 1)
    (hedit : ∀ images ∈ [2, 3, 4], P Catalog.Flux.edit .flux images) {family : Family} {mode : Mode}
    {s : ModeSpec} {images : Nat} (h : modeSpec family mode = .ok s)
    (himages : mode.admits family images) : P s family images := by
  by_cases hone : images = 1
  · subst hone
    exact hmodes family s (mem_modes_of_modeSpec h).1
  · obtain ⟨rfl, rfl, hleast, hmost⟩ := himages.resolve_left hone
    obtain rfl : s = Catalog.Flux.edit := by
      have hspec : modeSpec .flux .edit = .ok Catalog.Flux.edit := rfl
      simpa [hspec, eq_comm] using h
    refine hedit images ?_
    simp only [List.mem_cons, List.not_mem_nil, or_false]
    omega

/-- Every mode of the catalog is sound. -/
theorem exists_sound {family : Family} {mode : Mode} {s : ModeSpec} {images : Nat}
    (h : modeSpec family mode = .ok s) (himages : mode.admits family images) :
    ∃ l base, s.Sound family images l base := by
  apply ModeSpec.sound_of_isSound
  refine forall_admitted (P := fun s family images => s.isSound family images) (fun family => ?_)
    edit_isSound h himages
  cases family with
  | flux => exact flux_isSound
  | wan => exact wan_isSound
  | sdxl => exact sdxl_isSound
  | qwen => exact qwen_isSound

end Renderflow
