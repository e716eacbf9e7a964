import Renderflow.Job.Request
import Renderflow.Proofs.Style
import Renderflow.Proofs.Table
import Renderflow.Proofs.Text.Blank

/-!
# The style of a job

Which text names the style of a job. A generation takes the requested text, else the default of the
family, and is refused if that names no style. A follow-up takes the requested one or that of its
source as far as the book lists them, and so its style can always be resolved. Edits and animations
have none.
-/

namespace Renderflow

/-! ## Generations -/

/-- The default style of the jobs on a family. -/
def Settings.defaultStyle? (s : Settings) : Family → Option String
  | .flux => s.flux.defaultStyle
  | .sdxl => s.sdxl.defaultStyle
  | .qwen => s.qwen.defaultStyle
  | .wan => s.wan.defaultStyle

/-- The text that names the style of a generation: the requested one, else the default of the family
as it stands, else `off`. -/
inductive StyleChoice (requested : Option String) (s : Settings) (family : Family) : String → Prop
  | requested {text : String} (h : requested.bind Text.nonBlank? = some text) :
    StyleChoice requested s family text
  | configured {text : String} (hblank : requested.bind Text.nonBlank? = none)
    (h : s.defaultStyle? family = some text) : StyleChoice requested s family text
  | off (hblank : requested.bind Text.nonBlank? = none) (hnone : s.defaultStyle? family = none) :
    StyleChoice requested s family "off"

theorem Settings.defaultStyle?_eq (s : Settings) (family : Family) :
    s.defaultStyle? family = (s.family family).defaultStyle := by
  cases family <;> rfl

theorem styleChoice_iff {requested : Option String} {s : Settings} {family : Family}
    {text : String} :
    StyleChoice requested s family text ↔ requestedStyle requested s family = text := by
  unfold requestedStyle
  rw [← s.defaultStyle?_eq]
  constructor
  · intro h
    cases h with
    | requested h => simp [h]
    | configured hblank h => simp [hblank, h]
    | off hblank hnone => simp [hblank, hnone]
  · rintro rfl
    cases hrequested : requested.bind Text.nonBlank? with
    | some text => exact .requested hrequested
    | none =>
      cases hdefault : s.defaultStyle? family with
      | some text => exact .configured hrequested hdefault
      | none => exact .off hrequested hdefault

theorem StyleChoice.eq_of_requested {requested : Option String} {s : Settings} {family : Family}
    {text name : String} (h : StyleChoice requested s family text)
    (hname : requested.bind Text.nonBlank? = some name) : text = name := by
  rw [← styleChoice_iff.1 h]
  simp [requestedStyle, hname]

/-! ## Follow-ups -/

namespace FollowUp

/-- The style of a follow-up: the requested one if the book lists it, else that of the source job if
the book lists that, else none. -/
inductive Uses (c : JobContext) (requested : Option String) (source : Option JobDetails) :
    String → Prop
  | requested {name : String} (h : requested.bind Text.nonBlank? = some name)
    (hlists : c.styles.Lists name) : Uses c requested source name
  | inherited {text : String}
    (hunlisted : ∀ name, requested.bind Text.nonBlank? = some name → ¬ c.styles.Lists name)
    (h : source.bind (·.style) = some text) (hlists : c.styles.Lists (Text.trim text)) :
    Uses c requested source (Text.trim text)
  | off
    (hunlisted : ∀ name, requested.bind Text.nonBlank? = some name → ¬ c.styles.Lists name)
    (hstale : ∀ text, source.bind (·.style) = some text → ¬ c.styles.Lists (Text.trim text)) :
    Uses c requested source "off"

theorem isKnown_iff {c : JobContext} {name : String} : isKnown c name ↔ c.styles.Lists name := by
  rw [isKnown, Bool.or_eq_true, Table.contains_iff]
  rfl

variable {c : JobContext} {requested : Option String} {source : Option JobDetails}

theorem uses_styleName (c : JobContext) (requested : Option String) (source : Option JobDetails) :
    Uses c requested source (styleName c requested source) := by
  unfold styleName
  simp only
  cases hrequested : (requested.bind Text.nonBlank?).filter (isKnown c) with
  | some name =>
    obtain ⟨hname, hknown⟩ := Option.filter_eq_some_iff.1 hrequested
    exact .requested hname (isKnown_iff.1 hknown)
  | none =>
    have hunlisted : ∀ name, requested.bind Text.nonBlank? = some name →
        ¬ c.styles.Lists name := by
      simpa [Option.filter_eq_none_iff, ← isKnown_iff] using hrequested
    cases hinherited : ((source.bind (·.style)).map Text.trim).filter (isKnown c) with
    | some name =>
      obtain ⟨hmap, hknown⟩ := Option.filter_eq_some_iff.1 hinherited
      obtain ⟨text, htext, rfl⟩ := Option.map_eq_some_iff.1 hmap
      exact .inherited hunlisted htext (isKnown_iff.1 hknown)
    | none =>
      apply Uses.off hunlisted
      intro text htext
      rw [← isKnown_iff]
      simpa [htext, Option.filter_eq_none_iff] using hinherited

/-- The style of a follow-up is listed and needs no trimming. -/
theorem Uses.lists {name : String} (h : Uses c requested source name) :
    c.styles.Lists name ∧ Text.trim name = name := by
  cases h with
  | requested h hlists =>
    exact ⟨hlists, (Text.nonBlank?_eq_some_iff.1 (Text.nonBlank?_of_bind h)).1⟩
  | inherited _ _ hlists => exact ⟨hlists, Text.trim_trim _⟩
  | off => exact ⟨.inl (by decide), by decide⟩

/-- The style of a follow-up can always be resolved. -/
theorem exists_resolve (c : JobContext) (requested : Option String) (source : Option JobDetails)
    (family : Family) :
    ∃ style, ResolvedStyle.resolve c.styles (styleName c requested source) family = .ok style := by
  obtain ⟨hlists, htrim⟩ := (uses_styleName c requested source).lists
  apply ResolvedStyle.exists_resolve_iff.2
  rw [StyleBook.Knows, htrim]
  exact .inr hlists

end FollowUp

/-! ## Jobs of every kind -/

/-- The style of a book that a job on a family uses, if it uses one, and the name of it that the job
records. Edits and animations use none, whatever they record. -/
inductive JobRequest.UsesStyle (c : JobContext) (family : Family) :
    JobRequest → Option String → Option Style → Prop
  | generation {r : GenerationRequest} {text name : String} {style? : Option Style}
    (h : StyleChoice r.style c.settings family text) (hnames : c.styles.Names text name style?) :
    UsesStyle c family (.generation r) (some name) style?
  | variation {r : VariationRequest} {text name : String} {style? : Option Style}
    (h : FollowUp.Uses c r.style r.source text) (hnames : c.styles.Names text name style?) :
    UsesStyle c family (.variation r) (some name) style?
  | upscale {r : UpscaleRequest} {text name : String} {style? : Option Style}
    (h : FollowUp.Uses c r.style r.source text) (hnames : c.styles.Names text name style?) :
    UsesStyle c family (.upscale r) (some name) style?
  | edit (r : EditRequest) (recorded : Option String) : UsesStyle c family (.edit r) recorded none
  | animation (r : AnimationRequest) (recorded : Option String) :
    UsesStyle c family (.animation r) recorded none

/-- A generation that asks for a style of the book by its name uses it. -/
theorem JobRequest.UsesStyle.eq_of_requested {r : GenerationRequest} {c : JobContext}
    {family : Family} {name : String} {style : Style} {recorded : Option String}
    {style? : Option Style} (h : UsesStyle c family (.generation r) recorded style?)
    (hrequested : r.style.bind Text.nonBlank? = some name) (hoff : ¬ Text.sameLetters name "off")
    (hbook : c.styles.find? name = some style) : recorded = some name ∧ style? = some style := by
  cases h with
  | generation hchoice hnames =>
    obtain rfl := hchoice.eq_of_requested hrequested
    obtain ⟨htrim, hne⟩ := Text.nonBlank?_eq_some_iff.1 (Text.nonBlank?_of_bind hrequested)
    obtain ⟨rfl, hstyle⟩ := hnames.eq_of_find? htrim hne hoff hbook
    exact ⟨rfl, hstyle⟩

end Renderflow
