import Renderflow.Proofs.Job.Compile
import Renderflow.Proofs.Job.Family
import Renderflow.Proofs.Job.Planned
import Renderflow.Proofs.Job.Styles

/-!
# The slots of a compiled job

The LoRA node of a compiled job has the slots of the style that the job uses. A style for
another family disables them all and is warned about.
-/

namespace Renderflow

namespace ModeSpec

/-- A mode has a LoRA node unless it is an animation or a Flux edit. -/
theorem lora_eq_none_iff {family : Family} {mode : Mode} {s : ModeSpec}
    (h : modeSpec family mode = .ok s) :
    s.lora = none ↔ mode = .animation ∨ mode = .edit ∧ family = .flux := by
  obtain ⟨hmem, rfl⟩ := mem_modes_of_modeSpec h
  revert s
  cases family <;> decide

theorem mem_styleBindings {s : ModeSpec} {lora : String} (hlora : s.lora = some lora)
    (style : ResolvedStyle) (i : Fin 5) :
    .silent (.insertInput lora slotNames[i] style.slots[i].value) ∈ s.styleBindings style := by
  have hslot : (slotNames[i], style.slots[i]) ∈ (slotNames.zip style.slots).toList := by
    rw [Vector.mem_toList_iff, Vector.mem_iff_getElem]
    exact ⟨i, i.2, by simp⟩
  simp only [styleBindings, hlora, ifRole, ResolvedStyle.edits, List.map_map]
  exact List.mem_map_of_mem hslot

end ModeSpec

/-! ## Slots in a graph -/

/-- A slot in a LoRA node. The inputs for slots are counted from one. -/
def Graph.HasSlot (g : Graph) (lora : String) (i : Fin 5) (slot : LoraSlot) : Prop :=
  g.value? lora ("lora_" ++ toString (i.1 + 1)) =
    some (.object
      [("lora", .str slot.lora), ("on", .bool slot.on), ("strength", .float slot.strength)])

/-- The slots of a LoRA node are those of a style that is made for the family of the job, and a slot
that the style leaves out is disabled. With another style, or with none, they are all disabled. So a
slot that is on is one of such a style. -/
structure Graph.Styled (g : Graph) (lora : String) (style? : Option Style) (family : Family) :
    Prop where
  own : ∀ style, style? = some style → style.IsFor family →
    ∀ (i : Fin 5) (slot : LoraSlot), style.slots[i] = some slot → g.HasSlot lora i slot
  missing : ∀ style, style? = some style → style.IsFor family →
    ∀ i : Fin 5, style.slots[i] = none → g.HasSlot lora i ⟨false, "NONE", 0.0⟩
  disabled : (∀ style, style? = some style → ¬ style.IsFor family) →
    ∀ i : Fin 5, g.HasSlot lora i ⟨false, "NONE", 0.0⟩
  on : ∀ (i : Fin 5) (slot : LoraSlot), g.HasSlot lora i slot → slot.on →
    ∃ style, style? = some style ∧ style.IsFor family ∧ style.slots[i] = some slot

theorem Graph.hasSlot_iff {g : Graph} {lora : String} {i : Fin 5} {slot : LoraSlot} :
    g.HasSlot lora i slot ↔ g.value? lora slotNames[i] = some slot.value := by
  have hname : ∀ i : Fin 5, slotNames[i] = "lora_" ++ toString (i.1 + 1) := by decide
  rw [hname]
  rfl

theorem Graph.HasSlot.unique {g : Graph} {lora : String} {i : Fin 5} {slot slot' : LoraSlot}
    (h : g.HasSlot lora i slot) (h' : g.HasSlot lora i slot') : slot = slot' := by
  have hvalue := Value.object.inj (Option.some.inj (h.symm.trans h'))
  cases slot
  cases slot'
  simpa [and_left_comm] using hvalue

/-- A LoRA node that holds the slots of a resolved style. -/
theorem Graph.styled_of_resolved {g : Graph} {lora : String} {style? : Option Style}
    {family : Family} {rs : ResolvedStyle} (hrs : rs.Of style? family)
    (hslots : ∀ i : Fin 5, g.HasSlot lora i rs.slots[i]) : g.Styled lora style? family := by
  have hown : ∀ style, style? = some style → style.IsFor family →
      ∀ i : Fin 5, g.HasSlot lora i (style.slots[i].getD .disabled) := by
    intro style hstyle hfor i
    have hslot := hslots i
    rw [hrs.own style hstyle hfor] at hslot
    simpa using hslot
  have hdisabled : (∀ style, style? = some style → ¬ style.IsFor family) →
      ∀ i : Fin 5, g.HasSlot lora i .disabled := by
    intro hother i
    have hslot := hslots i
    rw [hrs.disabled hother] at hslot
    simpa [ResolvedStyle.allDisabled] using hslot
  refine ⟨fun style hstyle hfor i slot hslot => ?_, fun style hstyle hfor i hslot => ?_,
    hdisabled, fun i slot hslot hon => ?_⟩
  · simpa [hslot] using hown style hstyle hfor i
  · simpa [hslot, LoraSlot.disabled] using hown style hstyle hfor i
  · by_cases hfor : ∃ style, style? = some style ∧ style.IsFor family
    · obtain ⟨style, hstyle, hfor⟩ := hfor
      obtain rfl := hslot.unique (hown style hstyle hfor i)
      cases hi : style.slots[i] with
      | none => simp [hi, LoraSlot.disabled] at hon
      | some slot => exact ⟨style, hstyle, hfor, by simp [hi]⟩
    · obtain rfl := hslot.unique (hdisabled (fun style hstyle hs => hfor ⟨style, hstyle, hs⟩) i)
      cases hon

namespace JobRequest

variable {r : JobRequest} {c : JobContext} {reply : Option EnhancerReply}

/-- A plan binds the style of its job, records it and warns about it. -/
theorem exists_resolved_of_plan {p : Plan} (hp : r.plan c reply = .ok p) {family : Family}
    {s : ModeSpec} (hfamily : p.details.family = some family)
    (hspec : modeSpec family r.mode = .ok s) :
    ∃ rs style?, r.UsesStyle c family p.details.style style? ∧
      ResolvedStyle.Of rs style? family ∧ p.details.styleWarning = rs.warning ∧
      s.styleBindings rs ⊆ p.bindings := by
  cases r with
  | generation r =>
    obtain @⟨model, start, s', style, _, _, _, _, _, _, -, hstart, hspec', hstyle, -, -, -, -, -,
      -⟩ := GenerationRequest.plan_eq_ok_iff.1 hp
    obtain rfl : model.family = family := by
      cases start <;> simpa [GenerationRequest.details, Start.record] using hfamily
    rw [← (r.start_delivers c).value start hstart] at hspec
    obtain rfl : s' = s := Except.ok.inj (hspec'.symm.trans hspec)
    obtain ⟨style?, hnames, hof⟩ := ResolvedStyle.exists_names_of_resolve hstyle
    have huses := UsesStyle.generation (styleChoice_iff.2 rfl) hnames
    exact ⟨style, style?, by cases start <;> exact huses, hof, by cases start <;> rfl,
      fun b hb => by simp [hb]⟩
  | variation r =>
    obtain @⟨model, s', style, _, _, _, _, _, _, -, hspec', hstyle, -, -, -, -, -, -⟩ :=
      VariationRequest.plan_eq_ok_iff.1 hp
    obtain rfl : model.family = family := by simpa [VariationRequest.details] using hfamily
    obtain rfl : s' = s := Except.ok.inj (hspec'.symm.trans hspec)
    obtain ⟨style?, hnames, hof⟩ := ResolvedStyle.exists_names_of_resolve hstyle
    exact ⟨style, style?, .variation (FollowUp.uses_styleName c r.style r.source) hnames, hof, rfl,
      fun b hb => by simp [hb]⟩
  | upscale r =>
    obtain @⟨model, s', style, _, _, _, _, _, _, -, hspec', hstyle, -, -, -, -, -, -⟩ :=
      UpscaleRequest.plan_eq_ok_iff.1 hp
    obtain rfl : model.family = family := by simpa [UpscaleRequest.details] using hfamily
    obtain rfl : s' = s := Except.ok.inj (hspec'.symm.trans hspec)
    obtain ⟨style?, hnames, hof⟩ := ResolvedStyle.exists_names_of_resolve hstyle
    exact ⟨style, style?, .upscale (FollowUp.uses_styleName c r.style r.source) hnames, hof, rfl,
      fun b hb => by simp [hb]⟩
  | edit r =>
    rcases EditRequest.plan_eq_ok_iff.1 hp with ⟨-, hflux⟩ | ⟨-, hqwen⟩
    · obtain rfl : .flux = family := Option.some.inj (hflux.family_eq.symm.trans hfamily)
      have hlora : s.lora = none := (ModeSpec.lora_eq_none_iff hspec).2 (.inr ⟨rfl, rfl⟩)
      obtain ⟨⟩ := hflux
      exact ⟨.off, none, .edit r _, .off _, rfl, by
        simp [ModeSpec.styleBindings, hlora, ModeSpec.ifRole]⟩
    · obtain rfl : .qwen = family := Option.some.inj (hqwen.family_eq.symm.trans hfamily)
      obtain @⟨s', _, _, _, _, _, _, hspec', -, -, -, -, -, -, -⟩ := hqwen
      obtain rfl : s' = s := Except.ok.inj (hspec'.symm.trans hspec)
      exact ⟨.off, none, .edit r _, .off _, rfl, fun b hb => by simp [hb]⟩
  | animation r =>
    have hlora : s.lora = none := (ModeSpec.lora_eq_none_iff hspec).2 (.inl rfl)
    obtain ⟨⟩ := AnimationRequest.plan_eq_ok_iff.1 hp
    exact ⟨.off, none, .animation r _, .off _, rfl, by
      simp [ModeSpec.styleBindings, hlora, ModeSpec.ifRole]⟩

/-- A compiled job records the style that it uses, its LoRA node holds the slots of it, and it warns
about one for another family. -/
theorem styled_of_compile {x : Compiled} (h : r.compile c reply = .ok x) :
    ∃ family s style?, x.details.family = some family ∧ modeSpec family r.mode = .ok s ∧
      r.UsesStyle c family x.details.style style? ∧
      (∀ lora, s.lora = some lora → x.graph.Styled lora style? family) ∧
      (x.details.styleWarning.isSome ↔
        ∃ style, style? = some style ∧ ¬ style.IsFor family) := by
  obtain ⟨p, family, s, l, start, notes, hp, hfollows, hx, hrecord⟩ := exists_plan_of_compile h
  obtain ⟨bs, hbindings, -, hbound, -⟩ := hfollows.exists_bound hx
  obtain ⟨rs, style?, huses, hof, hwarning, hsub⟩ :=
    exists_resolved_of_plan hp hfollows.ofFamily hfollows.spec
  rw [hrecord]
  refine ⟨family, s, style?, hfollows.ofFamily, hfollows.spec, huses, fun lora hlora => ?_, ?_⟩
  · have hmode : s.mode = r.mode := (mem_modes_of_modeSpec hfollows.spec).2
    have hstitch : ¬ (s.mode = .edit ∧ family = .flux) := fun hedit => by
      simp [(ModeSpec.lora_eq_none_iff hfollows.spec).2 (.inr ⟨hmode ▸ hedit.1, hedit.2⟩)] at hlora
    rw [ModeSpec.stitchBindings, if_neg hstitch, List.nil_append] at hbindings
    refine Graph.styled_of_resolved hof fun i => Graph.hasSlot_iff.2 (hbound.value?_of_binds ?_)
    exact ⟨_, hbindings ▸ hsub (ModeSpec.mem_styleBindings hlora rs i),
      by simp [Binding.silent, Edit.written?]⟩
  · rw [← hof.warning, ← hwarning]

/-- The LoRA node of a compiled job has the slots of the style that the job uses if that is made for
the family of the job, and disabled ones otherwise. The job warns if its style is made for another
family. -/
theorem compile_styled {x : Compiled} (h : r.compile c reply = .ok x) :
    ∃ family s style?, x.details.family = some family ∧ modeSpec family r.mode = .ok s ∧
      r.UsesStyle c family x.details.style style? ∧
      (s.lora = none ↔ r.mode = .animation ∨ r.mode = .edit ∧ family = .flux) ∧
      (∀ lora, s.lora = some lora → x.graph.Styled lora style? family) ∧
      (x.details.styleWarning.isSome ↔
        ∃ style, style? = some style ∧ ¬ style.IsFor family) := by
  obtain ⟨family, s, style?, hfamily, hspec, huses, hstyled⟩ := styled_of_compile h
  exact ⟨family, s, style?, hfamily, hspec, huses, ModeSpec.lora_eq_none_iff hspec, hstyled⟩

/-- A style with one LoRA, which is made for SDXL. -/
def glow : Style where
  modelType := " sdxl"
  favorite := false
  slots := #v[none, some ⟨true, "glow.safetensors", 0.8⟩, none, none, none]

/-- A context with a style that is made for SDXL and one that is made for Flux. -/
def paintContext : JobContext :=
  { sampleContext with
    styles := Table.ofList
      [("glow", glow), ("ink", { glow with modelType := "FLUX" })] }

theorem find?_paintContext (name : String) : paintContext.styles.find? name =
    if name = "glow" then some glow
    else if name = "ink" then some { glow with modelType := "FLUX" } else none := by
  by_cases hink : name = "ink"
  · subst hink
    simp [paintContext, Table.find?_ofList, Table.last?]
  · simp [paintContext, Table.find?_ofList, Table.last?, hink, eq_comm]

theorem lists_paintContext_iff {name : String} : paintContext.styles.Lists name ↔
    Text.sameLetters name "off" ∨ name = "glow" ∨ name = "ink" := by
  rw [StyleBook.Lists, find?_paintContext]
  by_cases hglow : name = "glow" <;> by_cases hink : name = "ink" <;> simp [hglow, hink]

/-- A generation on SDXL in a style that is made for it has its LoRA, and one in a style that is
made for Flux has none and warns. -/
theorem compile_styled_glow_ink :
    ∃ x y, (generation { style := some "glow" }).compile paintContext = .ok x ∧
      (generation { style := some "ink" }).compile paintContext = .ok y ∧
      ∃ s lora, modeSpec .sdxl .txt2img = .ok s ∧ s.lora = some lora ∧
        x.graph.HasSlot lora 0 ⟨false, "NONE", 0.0⟩ ∧
        x.graph.HasSlot lora 1 ⟨true, "glow.safetensors", 0.8⟩ ∧
        x.details.styleWarning.isSome = false ∧
        (∀ i, y.graph.HasSlot lora i ⟨false, "NONE", 0.0⟩) ∧ y.details.styleWarning.isSome := by
  obtain ⟨x, hx⟩ := exists_compile_of_plan (generation { style := some "glow" }) paintContext none
    (by decide +kernel)
  obtain ⟨y, hy⟩ := exists_compile_of_plan (generation { style := some "ink" }) paintContext none
    (by decide +kernel)
  obtain ⟨family, s, style?, hfamily, hspec, huses, -, hstyled, hwarning⟩ := compile_styled hx
  obtain ⟨family', s', style?', hfamily', hspec', huses', -, hstyled', hwarning'⟩ :=
    compile_styled hy
  obtain rfl : family = .sdxl := Option.some.inj
    (hfamily.symm.trans (family_of_compile (by decide) hx))
  obtain rfl : family' = .sdxl := Option.some.inj
    (hfamily'.symm.trans (family_of_compile (by decide) hy))
  obtain rfl : s = s' := Except.ok.inj (hspec.symm.trans hspec')
  obtain ⟨-, rfl⟩ := huses.eq_of_requested (by decide) (by decide) (find?_paintContext "glow")
  obtain ⟨-, rfl⟩ := huses'.eq_of_requested (by decide) (by decide) (find?_paintContext "ink")
  have hown : glow.IsFor .sdxl := .inr (by decide)
  have hother : ¬ Style.IsFor { glow with modelType := "FLUX" } .sdxl :=
    not_or.2 ⟨by decide, by decide⟩
  have hlora : s.lora ≠ none := by simp [ModeSpec.lora_eq_none_iff hspec, mode]
  obtain ⟨lora, hlora⟩ := Option.ne_none_iff_exists'.1 hlora
  refine ⟨x, y, hx, hy, s, lora, hspec, hlora, ?_, ?_, ?_, ?_, ?_⟩
  · exact (hstyled lora hlora).missing glow rfl hown 0 rfl
  · exact (hstyled lora hlora).own glow rfl hown 1 _ rfl
  · simpa [hown] using hwarning
  · exact (hstyled' lora hlora).disabled (by simpa using hother)
  · exact hwarning'.2 ⟨_, rfl, hother⟩

end JobRequest

end Renderflow
