import Renderflow.Proofs.Image
import Renderflow.Proofs.Image.Spec
import Renderflow.Proofs.Job.Compile
import Renderflow.Proofs.Job.Context
import Renderflow.Proofs.Job.Family
import Renderflow.Proofs.Model.Selected
import Renderflow.Proofs.Requirement

/-!
# What the parts of a job require

A job of any kind takes its model, its image, its ratio, its style and its loaders in the same way.
For each of these there is what it requires, and the step of a plan that checks it.
-/

namespace Renderflow

namespace Requirement

/-- A model is selected and can be told from its selection. -/
def model (requested : Option String) (s : Settings) : Requirement where
  met := ∃ m, Selects requested s m
  refusal e :=
    (∀ text, ¬ Selection requested s text) ∧ e = .resource .noModelSelected ∨
      ∃ text cause, Selection requested s text ∧ Model.Resolves text (.error cause) ∧
        e = .resource cause

/-- A text is an image spec whose location names an image. -/
def image (w : World) (text : String) : Requirement where
  met := ∃ spec, Image.Reads text (.ok spec) ∧ Image.Judges w spec.location (.ok ())
  refusal e :=
    (∃ cause, Image.Reads text (.error cause) ∧ e = .validation cause) ∨
      ∃ spec, Image.Reads text (.ok spec) ∧ Image.Judges w spec.location (.error e)

/-- A location names an image. -/
def location (w : World) (location : String) : Requirement where
  met := Image.Judges w location (.ok ())
  refusal e := Image.Judges w location (.error e)

/-- A ratio has the form of one, unless it is blank. -/
def ratio (requested : Option String) : Requirement :=
  .each (requested.bind Text.nonBlank? = some ·) fun text =>
    .of (AspectRatio.HasForm text) (.validation (.invalidAspectRatio text))

/-- A style is known. -/
def style (book : StyleBook) (text : String) : Requirement :=
  .of (book.Knows text) (.validation (.unknownStyle (Text.trim text)))

/-- A loader of the family reads the file. -/
def loader (family : Family) (filename : String) : Requirement :=
  .of (family.Reads filename) (.resource (.unsupportedExtension family filename))

/-- A loader of WAN reads the file of the second stage, unless the file name is blank. Other
families have no second stage. -/
def secondLoader (family : Family) (filename : Option String) : Requirement :=
  .given (family = .wan) (.each (filename.bind Text.nonBlank? = some ·) (.loader .wan))

end Requirement

namespace Checks

theorem model (requested : Option String) (s : Settings) :
    Checks (liftM (selectedModel requested s) : Except CompileError Model)
      [.model requested s] := by
  apply Checks.resource
  · intro m hm
    exact ⟨m, selects_iff.2 hm⟩
  · intro cause hcause
    constructor
    · rintro ⟨m, hm⟩
      cases (selects_iff.1 hm).symm.trans hcause
    · rcases selectedModel_error hcause with ⟨hnone, rfl⟩ | ⟨text, htext, hresolve⟩
      · exact .inl ⟨hnone, rfl⟩
      · exact .inr ⟨text, cause, htext, hresolve, rfl⟩

theorem image (w : World) (text : String) : Checks (Image.Spec.resolve w text) [.image w text] := by
  simp only [Requirement.image, ← Image.parse_eq_iff_reads, ← Image.validate_eq_iff_judges]
  apply Checks.single
  · intro spec hspec
    obtain ⟨spec, hparse, hrest⟩ := bind_eq_ok_iff.1 hspec
    obtain ⟨⟨⟩, hvalidate, -⟩ := bind_eq_ok_iff.1 hrest
    exact ⟨spec, CompileError.validation_eq_ok_iff.1 hparse, hvalidate⟩
  · intro e he _
    rcases bind_eq_error_iff.1 he with hparse | ⟨spec, hparse, hrest⟩
    · obtain ⟨cause, hcause, rfl⟩ := mapError_eq_error_iff.1 hparse
      refine ⟨?_, .inl ⟨cause, hcause, rfl⟩⟩
      rintro ⟨spec, hspec, -⟩
      cases hspec.symm.trans hcause
    · have hspec := CompileError.validation_eq_ok_iff.1 hparse
      rcases bind_eq_error_iff.1 hrest with hvalidate | ⟨_, -, hpure⟩
      · refine ⟨?_, .inr ⟨spec, hspec, hvalidate⟩⟩
        rintro ⟨spec', hspec', hvalid⟩
        obtain rfl : spec = spec' := Except.ok.inj (hspec.symm.trans hspec')
        cases hvalid.symm.trans hvalidate
      · cases hpure

theorem locations (w : World) (locations : List String) :
    Checks (Image.validateAll w locations) [.each (· ∈ locations) (.location w)] := by
  have hlocation : Requirement.location w = fun location =>
      { met := Image.validate w location = .ok ()
        refusal := fun e => Image.validate w location = .error e } := by
    funext location
    simp only [Requirement.location, Image.validate_eq_iff_judges]
  rw [hlocation]
  apply Checks.single
  · rintro ⟨⟩ hall
    exact Image.validateAll_eq_ok_iff.1 hall
  · intro e he _
    obtain ⟨l, hl, hrefused⟩ := Image.exists_of_validateAll_eq_error he
    have hnot : Image.validate w l ≠ .ok () := by simp [hrefused]
    exact ⟨fun hmet => hnot (hmet l hl), l, hl, hnot, hrefused⟩

theorem ratio (requested : Option String) (s : Settings) :
    Checks (liftM (AspectRatio.resolve requested s) : Except CompileError String)
      [.ratio requested] := by
  apply Checks.optional
  · intro hnone
    refine .of_exists ⟨AspectRatio.configured s, CompileError.validation_eq_ok_iff.2 ?_⟩
    simp [AspectRatio.resolve, hnone]
  · intro text htext
    simp only [AspectRatio.resolve, htext]
    apply Checks.validation
    · intro ratio hratio
      split at hratio
      · next hform => exact AspectRatio.isRatio_iff.1 hform
      · cases hratio
    · intro cause hcause
      split at hcause
      · cases hcause
      · next hform =>
        obtain rfl := Except.error.inj hcause
        exact ⟨fun h => hform (AspectRatio.isRatio_iff.2 h), rfl⟩

theorem style (book : StyleBook) (text : String) (family : Family) :
    Checks (liftM (ResolvedStyle.resolve book text family) : Except CompileError ResolvedStyle)
      [.style book text] := by
  apply Checks.validation
  · intro rs hrs
    exact ResolvedStyle.exists_resolve_iff.1 ⟨rs, hrs⟩
  · intro cause hcause
    refine ⟨fun hknown => ?_, congrArg CompileError.validation (ResolvedStyle.resolve_error hcause)⟩
    obtain ⟨rs, hrs⟩ := ResolvedStyle.exists_resolve_iff.2 hknown
    cases hrs.symm.trans hcause

/-! ## Loaders -/

theorem loader (s : ModeSpec) (m : Model) :
    Checks (liftM (s.modelBindings m) : Except CompileError (List Binding))
      [.loader m.family m.filename] := by
  apply Checks.resource
  · intro bs hbs
    obtain ⟨n, hn, -⟩ := bind_eq_ok_iff.1 hbs
    exact Model.reads_of_loader hn
  · intro cause hcause
    rcases bind_eq_error_iff.1 hcause with hloader | ⟨_, -, hok⟩
    · obtain ⟨hunread, rfl⟩ := Model.loader_error hloader
      exact ⟨hunread, rfl⟩
    · cases hok

theorem optionalLoader {s : ModeSpec} {node : String} (hnode : s.secondaryLoader = some node)
    (family : Family) (filename : Option String) :
    Checks (liftM (s.secondaryBindings family filename) : Except CompileError (List Binding))
      [.each (filename.bind Text.nonBlank? = some ·) (.loader family)] := by
  apply Checks.optional
  · intro hnone
    refine .of_exists ⟨[], CompileError.resource_eq_ok_iff.2 ?_⟩
    simp [ModeSpec.secondaryBindings, hnode, hnone]
  · intro file hfile
    simp only [ModeSpec.secondaryBindings, hnode, hfile]
    exact loader { s with modelLoader := node } { family, filename := file, inferred := false }

theorem secondLoader {family : Family} {mode : Mode} {s : ModeSpec}
    (hspec : modeSpec family mode = .ok s) (filename : Option String) :
    Checks (liftM (s.secondaryBindings family filename) : Except CompileError (List Binding))
      [.secondLoader family filename] := by
  apply Checks.given
  · rintro rfl
    have hmodes : ∀ s ∈ Family.wan.spec.modes, s.secondaryLoader.isSome := by decide
    obtain ⟨node, hnode⟩ :=
      Option.isSome_iff_exists.1 (hmodes s (mem_modes_of_modeSpec hspec).1)
    exact optionalLoader hnode .wan filename
  · intro hfamily
    have hnone := ModeSpec.secondaryLoader_eq_none hspec hfamily
    refine .of_exists ⟨[], CompileError.resource_eq_ok_iff.2 ?_⟩
    simp [ModeSpec.secondaryBindings, hnone]

end Checks

/-- A request requires what its plan does, since a plan that there is can be compiled. -/
theorem JobRequest.requires_of_plan (r : JobRequest) (c : JobContext)
    (reply : Option EnhancerReply) {qs : List Requirement} (h : Checks (r.plan c reply) qs) :
    Requires (r.compile c reply) qs := by
  have hcompile : ∀ p : Plan, Checks p.compile [] := by
    intro p
    apply (Checks.graph _).bind
    intro d _
    exact .ok_value _
  have hall : Checks (r.compile c reply) (qs ++ []) := by
    rw [compile_eq]
    exact h.bind fun p _ => hcompile p
  rw [List.append_nil] at hall
  exact hall.requires (r.compile_delivers c reply)

end Renderflow
