import Renderflow.Proofs.Job.Requirements

/-!
# Which edits are compiled

An edit first settles its family, which decides what it requires: how many images, which model, and
whether a ratio is looked at. The images are looked at one by one, so that an error is about one of
those that are refused.
-/

namespace Renderflow

namespace EditRequest

/-- The family of an edit: the requested one, else that of the selected model. It is Flux if no
model is selected either. -/
inductive EditsAs (r : EditRequest) (c : JobContext) : Family → Prop
  | requested {family : Family} (h : r.family = some family) : EditsAs r c family
  | selected {m : Model} (h : r.family = none) (hm : Selects none c.settings m) :
    EditsAs r c m.family
  | flux (h : r.family = none) (hnothing : NothingSelected none c.settings) : EditsAs r c .flux

/-- The model file of an edit. That of a Qwen edit is the configured one without the key of a family
before it, else the file of the selected model if that is a Qwen model. -/
inductive EditModel (s : Settings) : Family → String → Prop
  | flux {file : String} (h : s.kontextModel.bind Text.nonBlank? = some file) :
    EditModel s .flux file
  | named {text file : String} {family : Family} (h : s.qwen.model.bind Text.nonBlank? = some text)
    (hnames : Model.Names text family file) (hne : file ≠ "") : EditModel s .qwen file
  | plain {text : String} (h : s.qwen.model.bind Text.nonBlank? = some text)
    (hplain : ∀ family file, ¬ Model.Names text family file) : EditModel s .qwen text
  | selected {m : Model} (hblank : s.qwen.model.bind Text.nonBlank? = none)
    (hm : Selects none s m) (hqwen : m.family = .qwen) : EditModel s .qwen m.filename

/-- The family of a selection is known, unless it names no file. -/
def selectionRequirement (text : String) : Requirement :=
  .of ((∃ m, Model.Resolves text (.ok m)) ∨ ∃ family, Model.Names text family "")
    (.resource (.unrecognizedModel text))

/-- A Flux edit takes one to four images, a Qwen edit takes one. -/
def countRequirement (r : EditRequest) : Family → Requirement
  | .flux => .of (1 ≤ r.images.length ∧ r.images.length ≤ 4)
      (.validation (.invalidImageCount .edit "1 to 4" r.images.length))
  | _ => .of (r.images.length = 1)
      (.validation (.invalidImageCount .edit "exactly 1" r.images.length))

/-- What an edit requires, in the order in which it is looked at. -/
def requirements (r : EditRequest) (c : JobContext) : List Requirement :=
  [ .given (r.family = none) (.each (Selection none c.settings) selectionRequirement),
    .each (r.EditsAs c) fun family =>
      .of (family = .flux ∨ family = .qwen) (.validation (.unsupportedMode family .edit)),
    .each (r.EditsAs c) r.countRequirement,
    .each (· ∈ r.images.map Text.trim) (.location c.world),
    .each (r.EditsAs c) fun family =>
      .of (∃ file, EditModel c.settings family file) (.resource (.noEditModel family)),
    .given (r.EditsAs c .flux) (.ratio r.aspectRatio) ]

variable {r : EditRequest} {c : JobContext} {family : Family}

/-! ## The family -/

theorem editsAs_iff : r.EditsAs c family ↔ r.editFamily c = .ok family := by
  constructor
  · intro h
    cases h with
    | requested h => simp only [editFamily, h]
    | selected h hm => simp only [editFamily, h, selects_iff.1 hm]
    | flux h hnothing => simp only [editFamily, h, noModelSelected_iff.2 hnothing]
  · intro h
    unfold editFamily at h
    split at h
    · next hfamily =>
      obtain rfl := Except.ok.inj h
      exact .requested hfamily
    · next hfamily =>
      split at h
      · next m hm =>
        obtain rfl := Except.ok.inj h
        exact .selected hfamily (selects_iff.2 hm)
      · next hnone =>
        obtain rfl := Except.ok.inj h
        exact .flux hfamily (noModelSelected_iff.1 hnone)
      · cases h

theorem editFamily_checks (r : EditRequest) (c : JobContext) :
    Checks (liftM (r.editFamily c) : Except CompileError Family)
      [.given (r.family = none) (.each (Selection none c.settings) selectionRequirement)] := by
  apply Checks.given
  · intro hfamily
    simp only [editFamily, hfamily]
    apply Checks.resource
    · intro family hok text htext
      split at hok
      · next m hm =>
        obtain ⟨text', htext', hresolve⟩ := selects_iff.2 hm
        obtain rfl := htext.unique htext'
        exact .inl ⟨m, hresolve⟩
      · next hnone => exact .inr (noModelSelected_iff.1 hnone text htext)
      · cases hok
    · intro cause hcause
      split at hcause
      · cases hcause
      · cases hcause
      · next e hsome he =>
        obtain rfl := Except.error.inj hcause
        rcases selectedModel_error he with ⟨-, rfl⟩ | ⟨text, htext, hresolve⟩
        · exact absurd rfl hsome
        · rcases hresolve.error htext.nonBlank? with ⟨rfl, -⟩ | ⟨rfl, hplain⟩
          · exact absurd rfl hsome
          · have hnot : ¬ (selectionRequirement text).met := by
              rintro (⟨m, hm⟩ | ⟨family, hnames⟩)
              · cases (Model.resolve_of_resolves hm).symm.trans (Model.resolve_of_resolves hresolve)
              · exact hplain family "" hnames
            exact ⟨fun hmet => hnot (hmet text htext), text, htext, hnot, rfl⟩
  · intro hsome
    obtain ⟨family, hfamily⟩ := Option.ne_none_iff_exists'.1 hsome
    exact .of_exists
      ⟨family, CompileError.resource_eq_ok_iff.2 (by simp only [editFamily, hfamily])⟩

theorem onFamily {α : Type} {x : Except CompileError α} (hfamily : r.editFamily c = .ok family)
    {q : Family → Requirement} (h : Checks x [q family]) : Checks x [.each (r.EditsAs c) q] := by
  apply Checks.each _ h
  intro family'
  rw [editsAs_iff, hfamily, Except.ok.injEq, eq_comm]

/-! ## The steps of both kinds of edits -/

theorem checkCount_checks (r : EditRequest) (least most : Nat) (expected : String) :
    Checks (liftM (r.checkCount least most expected) : Except CompileError Unit)
      [.of (least ≤ r.images.length ∧ r.images.length ≤ most)
        (.validation (.invalidImageCount .edit expected r.images.length))] := by
  apply Checks.validation
  · intro _ hok
    exact checkCount_ok hok
  · intro cause hcause
    unfold checkCount at hcause
    split at hcause
    · cases hcause
    · next hnot => exact ⟨hnot, congrArg CompileError.validation (Except.error.inj hcause).symm⟩

theorem validImages_checks (r : EditRequest) (c : JobContext) :
    Checks (r.validImages c) [.each (· ∈ r.images.map Text.trim) (.location c.world)] := by
  unfold validImages
  apply (Checks.locations c.world _).bind
  intro _ _
  exact .ok_value _

/-! ## Flux edits -/

theorem editModel_of_fluxModel {s : Settings} {file : String} (h : fluxModel s = .ok file) :
    EditModel s .flux file := by
  unfold fluxModel at h
  split at h
  · next hmodel =>
    obtain rfl := Except.ok.inj h
    exact .flux hmodel
  · cases h

theorem fluxModel_checks (s : Settings) :
    Checks (liftM (fluxModel s) : Except CompileError String)
      [.of (∃ file, EditModel s .flux file) (.resource (.noEditModel .flux))] := by
  apply Checks.resource
  · intro file hfile
    exact ⟨file, editModel_of_fluxModel hfile⟩
  · intro cause hcause
    unfold fluxModel at hcause
    split at hcause
    · cases hcause
    · next hnone =>
      refine ⟨?_, congrArg CompileError.resource (Except.error.inj hcause).symm⟩
      rintro ⟨file, ⟨hfile⟩⟩
      cases hnone.symm.trans hfile

/-- The measured ratio of a Flux edit is never refused, and the requested one is looked at alone. -/
theorem aspectRatio_checks (r : EditRequest) (s : Settings) :
    Checks (liftM (r.aspectRatioOf s) : Except CompileError String) [.ratio r.aspectRatio] := by
  unfold aspectRatioOf
  split
  · next measured hnone _ =>
    refine (Checks.ok_value _).cons ?_
    simp [Requirement.ratio, Requirement.each, hnone]
  · have hbind : (r.aspectRatio.bind Text.nonBlank?).bind Text.nonBlank? =
        r.aspectRatio.bind Text.nonBlank? := Text.bind_nonBlank? fun _ => Text.nonBlank?_of_bind
    have hratio := Checks.ratio (r.aspectRatio.bind Text.nonBlank?) s
    rw [Requirement.ratio, hbind] at hratio
    exact hratio

theorem fluxPlan_checks (hfamily : r.editFamily c = .ok .flux) :
    Checks (r.fluxPlan c)
      [ .each (r.EditsAs c) r.countRequirement,
        .each (· ∈ r.images.map Text.trim) (.location c.world),
        .each (r.EditsAs c) fun family =>
          .of (∃ file, EditModel c.settings family file) (.resource (.noEditModel family)),
        .given (r.EditsAs c .flux) (.ratio r.aspectRatio) ] := by
  have hspec : modeSpec .flux .edit = .ok Catalog.Flux.edit := rfl
  unfold fluxPlan
  apply (Checks.of_exists ⟨_, CompileError.validation_eq_ok_iff.2 hspec⟩).bind
  intro s _
  apply (onFamily hfamily (r.checkCount_checks 1 4 "1 to 4")).bind
  intro _ _
  apply (r.validImages_checks c).bind
  intro images _
  apply (onFamily hfamily (fluxModel_checks c.settings)).bind
  intro model _
  have hratio : Checks (liftM (r.aspectRatioOf c.settings) : Except CompileError String)
      [.given (r.EditsAs c .flux) (.ratio r.aspectRatio)] :=
    .given (fun _ => r.aspectRatio_checks c.settings)
      (fun hnot => absurd (editsAs_iff.2 hfamily) hnot)
  apply hratio.bind
  intro ratio _
  apply (Checks.internal _).bind
  intro vaeLoader _
  apply (Checks.internal _).bind
  intro template _
  apply (Checks.graph _).bind
  intro first _
  apply (Checks.graph _).bind
  intro samplers _
  apply (Checks.internal _).bind
  intro latent _
  exact .ok_value _

/-! ## Qwen edits -/

theorem editModel_of_qwenModel {s : Settings} {m : Model} (h : qwenModel s = .ok m) :
    EditModel s .qwen m.filename := by
  unfold qwenModel at h
  split at h
  · next configured hconfigured =>
    cases hexplicit : Model.explicit? configured with
    | some named =>
      obtain ⟨family, file⟩ := named
      simp only [hexplicit] at h
      split at h
      · cases h
      · next hne =>
        obtain rfl := Except.ok.inj h
        exact .named hconfigured (Model.explicit?_eq_some_iff.1 hexplicit) (by simpa using hne)
    | none =>
      simp only [hexplicit] at h
      split at h
      · cases h
      · obtain rfl := Except.ok.inj h
        exact .plain hconfigured (Model.explicit?_eq_none_iff.1 hexplicit)
  · next hblank =>
    split at h
    · next model hmodel =>
      split at h
      · next hqwen =>
        obtain rfl := Except.ok.inj h
        exact .selected hblank (selects_iff.2 hmodel) hqwen
      · cases h
    · cases h

theorem exists_qwenModel {s : Settings} {file : String} (h : EditModel s .qwen file) :
    ∃ m, qwenModel s = .ok m := by
  cases h with
  | named h hnames hne => simp [qwenModel, h, Model.explicit?_eq_some_iff.2 hnames, hne]
  | plain h hplain =>
    obtain ⟨-, hne⟩ := Text.nonBlank?_eq_some_iff.1 (Text.nonBlank?_of_bind h)
    simp [qwenModel, h, Model.explicit?_eq_none_iff.2 hplain, hne]
  | selected hblank hm hqwen => simp [qwenModel, hblank, selects_iff.1 hm, hqwen]

theorem qwenModel_error {s : Settings} {cause : ResourceError} (h : qwenModel s = .error cause) :
    cause = .noEditModel .qwen := by
  unfold qwenModel at h
  split at h
  · next configured _ =>
    cases hexplicit : Model.explicit? configured with
    | some _ | none =>
      simp only [hexplicit] at h
      split at h <;> cases h
      rfl
  · split at h
    · split at h <;> cases h
      rfl
    · exact (Except.error.inj h).symm

theorem qwenModel_checks (s : Settings) :
    Checks (liftM (qwenModel s) : Except CompileError Model)
      [.of (∃ file, EditModel s .qwen file) (.resource (.noEditModel .qwen))] := by
  apply Checks.resource
  · intro m hm
    exact ⟨m.filename, editModel_of_qwenModel hm⟩
  · intro cause hcause
    refine ⟨?_, congrArg CompileError.resource (qwenModel_error hcause)⟩
    rintro ⟨file, hfile⟩
    obtain ⟨m, hm⟩ := exists_qwenModel hfile
    cases hm.symm.trans hcause

theorem qwenPlan_checks (hfamily : r.editFamily c = .ok .qwen) :
    Checks (r.qwenPlan c)
      [ .each (r.EditsAs c) r.countRequirement,
        .each (· ∈ r.images.map Text.trim) (.location c.world),
        .each (r.EditsAs c) fun family =>
          .of (∃ file, EditModel c.settings family file) (.resource (.noEditModel family)),
        .given (r.EditsAs c .flux) (.ratio r.aspectRatio) ] := by
  have hspec : modeSpec .qwen .edit = .ok Catalog.Qwen.edit := rfl
  have hcount : Checks (liftM (r.checkCount 1 1 "exactly 1") : Except CompileError Unit)
      [r.countRequirement .qwen] := by
    have hone : (1 ≤ r.images.length ∧ r.images.length ≤ 1) = (r.images.length = 1) :=
      propext (by omega)
    have hchecks := r.checkCount_checks 1 1 "exactly 1"
    rw [hone] at hchecks
    exact hchecks
  -- A ratio is not looked at.
  have hratio : (Requirement.given (r.EditsAs c .flux) (.ratio r.aspectRatio)).met := by
    intro hflux
    cases hfamily.symm.trans (editsAs_iff.1 hflux)
  unfold qwenPlan
  apply (Checks.of_exists ⟨_, CompileError.validation_eq_ok_iff.2 hspec⟩).bind
  intro s _
  apply (onFamily hfamily hcount).bind
  intro _ _
  apply (r.validImages_checks c).bind
  intro images _
  apply (onFamily hfamily (qwenModel_checks c.settings)).bind
  intro model _
  apply (Checks.internal _).bind
  intro template _
  apply (Checks.internal _).bind
  intro lora _
  apply (Checks.graph _).bind
  intro samplers _
  apply (Checks.internal _).bind
  intro image _
  exact (Checks.ok_value _).cons hratio

/-! ## Edits -/

theorem unsupported_checks (hfamily : r.editFamily c = .ok family)
    (hother : ¬ (family = .flux ∨ family = .qwen)) (qs : List Requirement) :
    Checks (.error (.validation (.unsupportedMode family .edit)) : Except CompileError Plan)
      (.each (r.EditsAs c) (fun family =>
        .of (family = .flux ∨ family = .qwen) (.validation (.unsupportedMode family .edit))) ::
        qs) := by
  have hthere := editsAs_iff.2 hfamily
  apply Checks.reject
  apply Requirement.FirstUnmet.head
  · intro hmet
    exact hother (hmet family hthere)
  · exact ⟨family, hthere, hother, rfl⟩

theorem plan_checks (r : EditRequest) (c : JobContext) :
    Checks (r.plan c) (r.requirements c) := by
  unfold plan requirements
  apply (r.editFamily_checks c).bind
  intro family h
  have hfamily := CompileError.resource_eq_ok_iff.1 h
  have honly : ∀ family', r.EditsAs c family' → family' = family := by
    intro family' h'
    exact Except.ok.inj ((editsAs_iff.1 h').symm.trans hfamily)
  cases family with
  | flux =>
    apply (fluxPlan_checks hfamily).cons
    intro family' h'
    exact .inl (honly family' h')
  | qwen =>
    apply (qwenPlan_checks hfamily).cons
    intro family' h'
    exact .inr (honly family' h')
  | wan | sdxl => exact unsupported_checks hfamily (by decide) _

/-- An edit is compiled if it meets its requirements, on the family that it settles and with the
model for it. Otherwise it is refused for the first requirement that it does not meet. -/
theorem edit_requires (r : EditRequest) (c : JobContext) :
    Requires (r.compile c) (r.requirements c) ∧
      ∀ x, r.compile c = .ok x → ∃ family file, r.EditsAs c family ∧
        x.details.family = some family ∧ EditModel c.settings family file ∧
        x.details.modelUsed = some file := by
  refine ⟨JobRequest.requires_of_plan (.edit r) c none (r.plan_checks c), fun x hx => ?_⟩
  obtain ⟨p, hp, hcompiled⟩ := bind_eq_ok_iff.1 hx
  obtain ⟨d, -, rfl⟩ := Plan.compile_eq_ok_iff.1 hcompiled
  rcases plan_eq_ok_iff.1 hp with ⟨hfamily, hflux⟩ | ⟨hfamily, hqwen⟩
  · obtain @⟨_, _, model, _, _, _, _, _, _, -, -, -, hmodel, -⟩ := hflux
    exact ⟨.flux, model, editsAs_iff.2 hfamily, rfl, editModel_of_fluxModel hmodel, rfl⟩
  · have hrecorded := hqwen.family_eq
    obtain @⟨_, _, model, _, _, _, _, -, -, -, hmodel, -⟩ := hqwen
    exact ⟨.qwen, model.filename, editsAs_iff.2 hfamily, hrecorded, editModel_of_qwenModel hmodel,
      rfl⟩

/-- A context in which no model is selected. -/
def unselectedContext : JobContext :=
  { JobRequest.sampleContext with
    settings := { JobRequest.sampleContext.settings with selectedModel := some " flux : " } }

/-- An edit is compiled as one of Flux if no model is selected. -/
theorem edit_requires_unselected :
    ∃ x, ({ images := ["a.png"] } : EditRequest).compile unselectedContext = .ok x ∧
      ∃ family file, ({ images := ["a.png"] } : EditRequest).EditsAs unselectedContext family ∧
        x.details.family = some family ∧ EditModel unselectedContext.settings family file ∧
        x.details.modelUsed = some file := by
  obtain ⟨x, hx⟩ := JobRequest.exists_compile_of_plan (.edit { images := ["a.png"] })
    unselectedContext none (by decide)
  exact ⟨x, hx, (edit_requires { images := ["a.png"] } unselectedContext).2 x hx⟩

end EditRequest

end Renderflow
