import Renderflow.Proofs.Job.Context
import Renderflow.Proofs.Job.FollowUp
import Renderflow.Proofs.Text.Print

/-!
# The ratio of a job

A ratio is requested, configured, reduced from a size or taken from the record of another job. By
whichever way a job comes by it, the graph has it in canonical form, and an upscale of the job
takes it over as it is.
-/

namespace Renderflow

namespace AspectRatio

variable {text : String} {width height : List Char}

theorem IsCanonical.square : IsCanonical "1:1" ['1'] ['1'] := by
  have hone : ∀ c ∈ ['1'], Text.isDecimal c := by
    simpa using Text.isDecimal_of_isDigit (c := '1') (by decide)
  exact ⟨by simp, by simp, hone, hone, rfl⟩

theorem IsCanonical.not_isBlank (h : IsCanonical text width height) :
    ∀ ch ∈ text.toList, Text.isBlank ch = false := by
  intro ch hch
  rw [h.toList, List.mem_append, List.mem_cons] at hch
  rcases hch with hch | rfl | hch
  · exact Text.not_isBlank_of_isDecimal (h.width_digits ch hch)
  · decide
  · exact Text.not_isBlank_of_isDecimal (h.height_digits ch hch)

/-- A ratio of two numbers in print is canonical. -/
theorem IsCanonical.print (w h : Nat) :
    IsCanonical (toString w ++ ":" ++ toString h) (toString w).toList (toString h).toList where
  width_ne := by simp
  height_ne := by simp
  width_digits _ hc := Text.isDecimal_of_isDigit (Text.isDigit_of_mem_toString hc)
  height_digits _ hc := Text.isDecimal_of_isDigit (Text.isDigit_of_mem_toString hc)
  toList := by simp

/-- The proportions of a size are canonical. -/
theorem exists_isCanonical_of_ofSize? {w h : UInt32} {ratio : String}
    (hratio : ofSize? w h = some ratio) : ∃ width height, IsCanonical ratio width height := by
  unfold ofSize? at hratio
  split at hratio
  · obtain rfl := Option.some.inj hratio
    exact ⟨_, _, .print _ _⟩
  · cases hratio

end AspectRatio

open AspectRatio

/-- The ratio of a Flux edit is canonical. -/
theorem EditRequest.exists_isCanonical {r : EditRequest} {s : Settings} {ratio : String}
    (h : r.aspectRatioOf s = .ok ratio) : ∃ width height, IsCanonical ratio width height := by
  unfold aspectRatioOf at h
  split at h
  case h_1 measured _ hmeasured =>
    obtain rfl := Except.ok.inj h
    obtain ⟨size, -, hsize⟩ := Option.bind_eq_some_iff.1 hmeasured
    exact exists_isCanonical_of_ofSize? hsize
  case h_2 => exact isCanonical_of_resolve h

namespace UpscaleRequest

/-- The ratio of an upscale is canonical. -/
theorem exists_isCanonical (source : Option JobDetails) :
    ∃ width height, IsCanonical (aspectRatio source) width height := by
  unfold aspectRatio
  simp only
  cases hrecorded : ((source.bind (·.aspectRatio)).map Text.trim).filter isRatio with
  | some recorded =>
    exact AspectRatio.exists_isCanonical (Option.filter_eq_some_iff.1 hrecorded).2
  | none =>
    simp only [Option.map_none, Option.none_or]
    cases hmeasured : (do
        let s ← source
        ofSize? (← s.width) (← s.height) : Option String) with
    | none => exact ⟨_, _, .square⟩
    | some measured =>
      obtain ⟨s, -, hs⟩ := Option.bind_eq_some_iff.1 hmeasured
      obtain ⟨w, -, hw⟩ := Option.bind_eq_some_iff.1 hs
      obtain ⟨h, -, hsize⟩ := Option.bind_eq_some_iff.1 hw
      exact exists_isCanonical_of_ofSize? hsize

/-- The canonical ratio of a record is taken over as it is. -/
theorem aspectRatio_eq {d : JobDetails} {ratio : String} {width height : List Char}
    (hd : d.aspectRatio = some ratio) (h : IsCanonical ratio width height) :
    aspectRatio (some d) = ratio := by
  simp [aspectRatio, hd, Text.trim_eq_self h.isTrimmed, h.isRatio, h.withoutBlanks_eq,
    Option.filter_some_pos]

end UpscaleRequest

/-- The jobs that set the ratio of what they make. -/
def Mode.SetsRatio (mode : Mode) (family : Family) : Prop :=
  mode = .txt2img ∨ mode = .upscale ∨ mode = .edit ∧ family = .flux

namespace JobRequest

variable {r : JobRequest} {c : JobContext} {reply : Option EnhancerReply}

/-- A job that sets its ratio records one in canonical form. -/
theorem exists_ratio_of_plan {p : Plan} (hp : r.plan c reply = .ok p) {family : Family}
    (hfamily : p.details.family = some family) (hsets : r.mode.SetsRatio family) :
    ∃ ratio width height, p.details.aspectRatio = some ratio ∧ IsCanonical ratio width height := by
  cases r with
  | generation r =>
    obtain @⟨_, _, _, _, _, _, _, _, _, _, -, hstart, -⟩ := GenerationRequest.plan_eq_ok_iff.1 hp
    unfold GenerationRequest.start at hstart
    cases himage : r.image.bind Text.nonBlank? with
    | some text => simp [Mode.SetsRatio, mode, himage] at hsets
    | none =>
      simp only [himage] at hstart
      obtain ⟨ratio, hratio, hstart⟩ := bind_eq_ok_iff.1 hstart
      obtain rfl := Except.ok.inj hstart
      rw [CompileError.validation_eq_ok_iff] at hratio
      obtain ⟨width, height, hcanonical⟩ := isCanonical_of_resolve hratio
      exact ⟨ratio, width, height, rfl, hcanonical⟩
  | variation r =>
    cases hstrength : r.strength <;>
      simp [Mode.SetsRatio, mode, hstrength, VariationStrength.mode] at hsets
  | upscale r =>
    obtain ⟨⟩ := UpscaleRequest.plan_eq_ok_iff.1 hp
    obtain ⟨width, height, hcanonical⟩ := UpscaleRequest.exists_isCanonical r.source
    exact ⟨_, width, height, rfl, hcanonical⟩
  | edit r =>
    rcases EditRequest.plan_eq_ok_iff.1 hp with ⟨-, hflux⟩ | ⟨-, hqwen⟩
    · obtain @⟨_, _, _, ratio, _, _, _, _, _, -, -, -, -, hratio, -⟩ := hflux
      obtain ⟨width, height, hcanonical⟩ := EditRequest.exists_isCanonical hratio
      exact ⟨ratio, width, height, rfl, hcanonical⟩
    · obtain rfl : .qwen = family := Option.some.inj (hqwen.family_eq.symm.trans hfamily)
      simp [Mode.SetsRatio, mode] at hsets
  | animation r => simp [Mode.SetsRatio, mode] at hsets

/-- A job that sets its ratio binds the ratio that it records. -/
theorem ratio_of_compile {x : Compiled} (h : r.compile c reply = .ok x) {family : Family}
    (hfamily : x.details.family = some family) (hsets : r.mode.SetsRatio family) :
    ∃ s node ratio width height, modeSpec family r.mode = .ok s ∧ s.latent = some node ∧
      x.graph.value? node "aspect_ratio" = some (.str ratio) ∧
      x.details.aspectRatio = some ratio ∧ IsCanonical ratio width height := by
  obtain ⟨family', s, l, start, hconforms⟩ := (r.compile_delivers c reply).value x h
  obtain rfl : family' = family := Option.some.inj (hconforms.ofFamily.symm.trans hfamily)
  obtain ⟨p, _, _, _, _, notes, hp, -, -, hrecord⟩ := exists_plan_of_compile h
  have hplanned : p.details.family = some family' := by rw [← hfamily, hrecord]
  obtain ⟨ratio, width, height, hratio, hcanonical⟩ := exists_ratio_of_plan hp hplanned hsets
  have hrecorded : x.details.aspectRatio = some ratio := by rw [hrecord]; exact hratio
  have hmode : s.mode = r.mode := (mem_modes_of_modeSpec hconforms.spec).2
  have hsize := hconforms.reports.size
  have hholds : ∃ node, s.latent = some node ∧
      x.graph.Holds node "aspect_ratio" Value.asString? x.details.aspectRatio := by
    unfold Graph.ReportsSize at hsize
    rw [hmode] at hsize
    rcases hsets with hsets | hsets | ⟨hsets, rfl⟩
    · rw [hsets] at hsize
      obtain ⟨node, hnode, hholds, -⟩ := hsize
      exact ⟨node, hnode, hholds⟩
    · rw [hsets] at hsize
      obtain ⟨node, _, hnode, -, hholds, -⟩ := hsize
      exact ⟨node, hnode, hholds⟩
    · rw [hsets] at hsize
      obtain ⟨node, hnode, hholds, -⟩ := hsize
      exact ⟨node, hnode, hholds⟩
  obtain ⟨node, hnode, hholds⟩ := hholds
  rw [hrecorded] at hholds
  exact ⟨s, node, ratio, width, height, hconforms.spec, hnode, hholds.value?_eq, hrecorded,
    hcanonical⟩

/-- An upscale of a job records the canonical ratio of the job. -/
theorem aspectRatio_of_upscale {u : UpscaleRequest} {d : JobDetails} {x : Compiled}
    (hx : ((upscale u).ofSource d).compile c reply = .ok x) {ratio : String}
    {width height : List Char} (hd : d.aspectRatio = some ratio)
    (hratio : IsCanonical ratio width height) : x.details.aspectRatio = some ratio := by
  obtain ⟨p, _, _, _, _, notes, hp, -, -, hrecord⟩ := exists_plan_of_compile hx
  obtain ⟨⟩ := UpscaleRequest.plan_eq_ok_iff.1 hp
  rw [hrecord]
  exact congrArg some (UpscaleRequest.aspectRatio_eq hd hratio)

/-- A job that sets the ratio of what it makes has it in canonical form, without white space, so
that requested again it is taken as it is. Every upscale of the job binds the same ratio. -/
theorem compile_ratio {x : Compiled} (h : r.compile c reply = .ok x) :
    ∃ family s, x.details.family = some family ∧ modeSpec family r.mode = .ok s ∧
      (r.mode.SetsRatio family → ∃ node ratio, s.latent = some node ∧
        x.graph.value? node "aspect_ratio" = some (.str ratio) ∧
        x.details.aspectRatio = some ratio ∧
        (∃ width height, IsCanonical ratio width height) ∧
        (∀ ch ∈ ratio.toList, Text.isBlank ch = false) ∧
        (∀ settings, resolve (some ratio) settings = .ok ratio) ∧
        ∀ (u : UpscaleRequest) (c' : JobContext) (x' : Compiled),
          ((upscale u).ofSource x.details).compile c' = .ok x' →
            ∃ family' s' helper, x'.details.family = some family' ∧
              modeSpec family' .upscale = .ok s' ∧ s'.latent = some helper ∧
              x'.graph.value? helper "aspect_ratio" = some (.str ratio)) := by
  obtain ⟨family, s, l, start, hconforms⟩ := (r.compile_delivers c reply).value x h
  refine ⟨family, s, hconforms.ofFamily, hconforms.spec, fun hsets => ?_⟩
  obtain ⟨s', node, ratio, width, height, hspec, hnode, hvalue, hrecorded, hcanonical⟩ :=
    ratio_of_compile h hconforms.ofFamily hsets
  obtain rfl : s = s' := Except.ok.inj (hconforms.spec.symm.trans hspec)
  refine ⟨node, ratio, hnode, hvalue, hrecorded, ⟨width, height, hcanonical⟩,
    hcanonical.not_isBlank, hcanonical.resolve_eq, fun u c' x' hx' => ?_⟩
  obtain ⟨family', _, _, _, hupscaled⟩ :=
    (((upscale u).ofSource x.details).compile_delivers c' none).value x' hx'
  obtain ⟨s', helper, ratio', _, _, hspec', hhelper, hvalue', hrecorded', -⟩ :=
    ratio_of_compile hx' hupscaled.ofFamily (.inr (.inl rfl))
  obtain rfl : ratio = ratio' := Option.some.inj
    ((aspectRatio_of_upscale hx' hrecorded hcanonical).symm.trans hrecorded')
  exact ⟨family', s', helper, hupscaled.ofFamily, hspec', hhelper, hvalue'⟩

/-- A generation that is asked for a spaced ratio with full-width digits. -/
def spacedRatio : GenerationRequest :=
  { prompt := "a cat", aspectRatio := some " １６ :\t9 " }

/-- The spaced ratio is bound without its spaces, and an upscale of the image binds it too. -/
theorem compile_ratio_spaced :
    ∃ x x', (generation spacedRatio).compile sampleContext = .ok x ∧
      ((upscale { image := "b.png" }).ofSource x.details).compile sampleContext = .ok x' ∧
      ∃ family s node family' s' helper, x.details.family = some family ∧
        modeSpec family .txt2img = .ok s ∧ s.latent = some node ∧
        x.graph.value? node "aspect_ratio" = some (.str "１６:9") ∧
        x'.details.family = some family' ∧ modeSpec family' .upscale = .ok s' ∧
        s'.latent = some helper ∧
        x'.graph.value? helper "aspect_ratio" = some (.str "１６:9") := by
  obtain ⟨x, hx⟩ := exists_compile_of_plan (generation spacedRatio) sampleContext none
    (by decide +kernel)
  obtain ⟨x', hx'⟩ := exists_compile_upscale x.details
  obtain ⟨family, s, hfamily, hspec, hratio⟩ := compile_ratio hx
  obtain ⟨node, ratio, hnode, hvalue, hrecorded, -, -, -, hfollowed⟩ := hratio (.inl rfl)
  obtain ⟨family', s', helper, hfamily', hspec', hhelper, hvalue'⟩ := hfollowed _ _ x' hx'
  obtain rfl : ratio = "１６:9" := by
    obtain ⟨p, _, _, _, _, notes, hp, -, -, hrecord⟩ := exists_plan_of_compile hx
    have hplanned : (p.details.aspectRatio == some "１６:9") = true := by
      have hratio : ((generation spacedRatio).plan sampleContext none).toOption.map
          (·.details.aspectRatio == some "１６:9") = some true := by decide +kernel
      rw [hp] at hratio
      exact Option.some.inj hratio
    rw [hrecord] at hrecorded
    exact Option.some.inj (hrecorded.symm.trans (eq_of_beq hplanned))
  exact ⟨x, x', hx, hx', family, s, node, family', s', helper, hfamily, hspec, hnode, hvalue,
    hfamily', hspec', hhelper, hvalue'⟩

end JobRequest

end Renderflow
