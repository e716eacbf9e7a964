import Renderflow.Job.Context
import Renderflow.Proofs.Job.Compile
import Renderflow.Proofs.Job.Planned
import Renderflow.Proofs.OutputPath.Components
import Renderflow.Proofs.Text.Print

/-!
# Where the files of a job go

The save node of a compiled job has the path of its files: in the directory that is configured for
the job, under a name that begins with the kind of the job and its id. A directory of separators
alone counts as none.
-/

namespace Renderflow

/-- The kind of a job in the names of its files. -/
def Mode.fileKind (mode : Mode) (family : Family) : String :=
  match mode, family with
  | txt2img, _ => "GEN"
  | img2img, _ => "GEN_I2I"
  | weakVariation, _ | strongVariation, _ => "GEN_VAR"
  | upscale, _ => "GEN_UP"
  | edit, .flux => "EDIT"
  | edit, _ => "QWEN_EDIT"
  | animation, _ => "WAN_ANIM"

open OutputPath

theorem Mode.not_isSeparator_of_mem_fileKind (mode : Mode) (family : Family) :
    ∀ c ∈ (mode.fileKind family).toList, isSeparator c = false := by
  cases mode <;> cases family <;> simp [fileKind, isSeparator]

theorem not_isSeparator_of_mem_freshJobId (word : BitVec 32) :
    ∀ c ∈ (freshJobId word).toList, isSeparator c = false := by
  have hdigits : ∀ n < 16, isSeparator (Nat.digitChar n) = false := by decide
  rw [freshJobId, String.toList_ofList, List.forall_mem_map]
  exact fun i _ => hdigits _ (Nat.mod_lt _ (by decide))

theorem not_isSeparator_of_mem_toString (n : Nat) :
    ∀ c ∈ (toString n).toList, isSeparator c = false := by
  intro c hc
  have hdigit := Text.isDigit_of_mem_toString hc
  rw [Bool.eq_false_iff]
  intro hsep
  rcases (by simpa [isSeparator] using hsep : c = '/' ∨ c = '\\') with rfl | rfl <;>
    exact absurd hdigit (by decide)

/-- A trimmed id has no separators if the id has none. -/
theorem not_isSeparator_of_nonBlank? {id text : String} (h : Text.nonBlank? id = some text)
    (hid : ∀ c ∈ id.toList, isSeparator c = false) : ∀ c ∈ text.toList, isSeparator c = false := by
  obtain ⟨rfl, -⟩ := Text.nonBlank?_eq_some_iff.1 h
  exact fun c hc => hid c (Text.subset_trim id hc)

namespace FollowUp

variable {source : Option JobDetails}

theorem not_isSeparator_of_mem_sourceId
    (hid : ∀ id, source.map (·.jobId) = some id → ∀ c ∈ id.toList, isSeparator c = false) :
    ∀ c ∈ (sourceId source).toList, isSeparator c = false := by
  unfold sourceId
  cases hsource : (source.map (·.jobId)).bind Text.nonBlank? with
  | none => simp [isSeparator]
  | some text =>
    obtain ⟨id, hmap, htext⟩ := Option.bind_eq_some_iff.1 hsource
    exact not_isSeparator_of_nonBlank? htext (hid id hmap)

theorem not_isSeparator_of_mem_imageLabel
    (hid : ∀ id, source.map (·.jobId) = some id → ∀ c ∈ id.toList, isSeparator c = false)
    (n : UInt32) : ∀ c ∈ (imageLabel n source).toList, isSeparator c = false := by
  simp only [imageLabel, String.toList_append, List.forall_mem_append]
  exact ⟨⟨⟨by simp [isSeparator], not_isSeparator_of_mem_toString _⟩, by simp [isSeparator]⟩,
    not_isSeparator_of_mem_sourceId hid⟩

end FollowUp

namespace JobRequest

variable {r : JobRequest} {c : JobContext} {reply : Option EnhancerReply}

/-- The directory that is configured for the files of a job. -/
def outputDirectory (s : Settings) : JobRequest → String
  | generation _ => s.outputs.generations
  | variation _ => s.outputs.variations
  | upscale _ => s.outputs.upscales
  | edit _ => s.outputs.edits
  | animation _ => s.outputs.animations

/-- What the names of the files have after the id of the job. -/
def fileSuffix : JobRequest → Option String
  | variation r => some (r.strength.letter ++ "_" ++ FollowUp.imageLabel r.imageIndex r.source)
  | upscale r => some (FollowUp.imageLabel r.imageIndex r.source)
  | edit r => r.suffix
  | generation _ | animation _ => none

/-- The id of the source job, of the jobs that have it in the names of their files. -/
def namedSource? : JobRequest → Option String
  | variation r => r.source.map (·.jobId)
  | upscale r => r.source.map (·.jobId)
  | edit r => r.sourceJobId
  | generation _ | animation _ => none

/-- The separators of a suffix are those of the id of the source job. -/
theorem not_isSeparator_of_mem_fileSuffix
    (hid : ∀ id, r.namedSource? = some id → ∀ c ∈ id.toList, isSeparator c = false)
    (s : String) (hs : r.fileSuffix = some s) : ∀ c ∈ s.toList, isSeparator c = false := by
  cases r with
  | generation r | animation r => cases hs
  | variation r =>
    obtain rfl := Option.some.inj hs
    simp only [String.toList_append, List.forall_mem_append]
    exact ⟨⟨by cases r.strength <;> simp [VariationStrength.letter, isSeparator],
        by simp [isSeparator]⟩,
      FollowUp.not_isSeparator_of_mem_imageLabel hid r.imageIndex⟩
  | upscale r =>
    obtain rfl := Option.some.inj hs
    exact FollowUp.not_isSeparator_of_mem_imageLabel hid r.imageIndex
  | edit r =>
    obtain ⟨text, htext, rfl⟩ := Option.map_eq_some_iff.1 hs
    have hbind := (Option.filter_eq_some_iff.1 htext).1
    obtain ⟨id, hsource, hnonBlank⟩ := Option.bind_eq_some_iff.1 hbind
    rw [String.toList_append, List.forall_mem_append]
    exact ⟨by simp [isSeparator], not_isSeparator_of_nonBlank? hnonBlank (hid id hsource)⟩

/-- A planned job binds the path of its files. -/
theorem output_mem_of_plan {p : Plan} (hp : r.plan c reply = .ok p) {family : Family}
    {s : ModeSpec} (hfamily : p.details.family = some family)
    (hspec : modeSpec family r.mode = .ok s) :
    .set s.save "filename_prefix" (.str (stem (r.outputDirectory c.settings)
      (r.mode.fileKind family) c.jobId r.fileSuffix)) ∈ p.bindings := by
  cases r with
  | generation r =>
    obtain @⟨model, start, s', _, _, _, _, _, _, _, -, hstart, hspec', -, -, -, -, -, -, -⟩ :=
      GenerationRequest.plan_eq_ok_iff.1 hp
    obtain rfl : model.family = family := by
      cases start <;> simpa [GenerationRequest.details, Start.record] using hfamily
    rw [← (r.start_delivers c).value start hstart] at hspec ⊢
    obtain rfl : s' = s := Except.ok.inj (hspec'.symm.trans hspec)
    cases start <;> simp [ModeSpec.outputBindings, outputDirectory, fileSuffix, Start.mode,
      Mode.fileKind, Start.fileKind]
  | variation r =>
    obtain @⟨model, s', _, _, _, _, _, _, _, -, hspec', -, -, -, -, -, -, -⟩ :=
      VariationRequest.plan_eq_ok_iff.1 hp
    obtain rfl : model.family = family := by simpa [VariationRequest.details] using hfamily
    obtain rfl : s' = s := Except.ok.inj (hspec'.symm.trans hspec)
    have hkind : r.strength.mode.fileKind model.family = "GEN_VAR" := by
      cases r.strength <;> rfl
    simp [ModeSpec.outputBindings, outputDirectory, fileSuffix, mode, hkind]
  | upscale r =>
    obtain @⟨model, s', _, _, _, _, _, _, _, -, hspec', -, -, -, -, -, -, -⟩ :=
      UpscaleRequest.plan_eq_ok_iff.1 hp
    obtain rfl : model.family = family := by simpa [UpscaleRequest.details] using hfamily
    obtain rfl : s' = s := Except.ok.inj (hspec'.symm.trans hspec)
    simp [ModeSpec.outputBindings, outputDirectory, fileSuffix, mode, Mode.fileKind]
  | edit r =>
    rcases EditRequest.plan_eq_ok_iff.1 hp with ⟨-, hflux⟩ | ⟨-, hqwen⟩
    · obtain rfl : .flux = family := Option.some.inj (hflux.family_eq.symm.trans hfamily)
      obtain @⟨s', _, _, _, _, _, _, _, _, hspec', -⟩ := hflux
      obtain rfl : s' = s := Except.ok.inj (hspec'.symm.trans hspec)
      simp [ModeSpec.outputBindings, outputDirectory, fileSuffix, mode, Mode.fileKind]
    · obtain rfl : .qwen = family := Option.some.inj (hqwen.family_eq.symm.trans hfamily)
      obtain @⟨s', _, _, _, _, _, _, hspec', -⟩ := hqwen
      obtain rfl : s' = s := Except.ok.inj (hspec'.symm.trans hspec)
      simp [ModeSpec.outputBindings, outputDirectory, fileSuffix, mode, Mode.fileKind]
  | animation r =>
    obtain @⟨s', _, _, _, _, _, _, hspec', -⟩ := AnimationRequest.plan_eq_ok_iff.1 hp
    obtain rfl : .wan = family := Option.some.inj hfamily
    obtain rfl : s' = s := Except.ok.inj (hspec'.symm.trans hspec)
    simp [ModeSpec.outputBindings, outputDirectory, fileSuffix, mode, Mode.fileKind]

/-- The save node of a compiled job has the path of its files. -/
theorem output_of_compile {x : Compiled} (h : r.compile c reply = .ok x) :
    ∃ family s, x.details.family = some family ∧ modeSpec family r.mode = .ok s ∧
      x.graph.value? s.save "filename_prefix" = some (.str (stem (r.outputDirectory c.settings)
        (r.mode.fileKind family) c.jobId r.fileSuffix)) := by
  obtain ⟨p, family, s, l, start, notes, hp, hfollows, hx, hrecord⟩ := exists_plan_of_compile h
  obtain ⟨bs, hbindings, -, hbound, -⟩ := hfollows.exists_bound hx
  have hmem := output_mem_of_plan hp hfollows.ofFamily hfollows.spec
  rw [hbindings, List.mem_append] at hmem
  rw [hrecord]
  refine ⟨family, s, hfollows.ofFamily, hfollows.spec, hbound.value?_of_binds (.of_set ?_)⟩
  -- the stitching of a Flux edit notes nothing
  refine hmem.resolve_left fun hstitch => ?_
  simpa [Binding.set] using ModeSpec.note_stitchBindings _ hstitch

/-- The files of a compiled job are directly in the directory that is configured for it, under a
name that begins with the kind of the job and its id. A directory of white space and separators
alone counts as none, and the name has the separators that the id of the source job has. -/
theorem compile_output {x : Compiled} (word : BitVec 32)
    (h : r.compile { c with jobId := freshJobId word } reply = .ok x) :
    ∃ family s path name, x.details.family = some family ∧ modeSpec family r.mode = .ok s ∧
      x.graph.value? s.save "filename_prefix" = some (.str path) ∧
      (components (Text.trim (r.outputDirectory c.settings)).toList ≠ [] →
        ∃ place, path = place ++ "/" ++ name ∧
          SamePlace place.toList (Text.trim (r.outputDirectory c.settings)).toList) ∧
      (components (Text.trim (r.outputDirectory c.settings)).toList = [] → path = name) ∧
      (∃ tail, name = r.mode.fileKind family ++ "_" ++ freshJobId word ++ tail) ∧
      ((∀ id, r.namedSource? = some id → ∀ ch ∈ id.toList, isSeparator ch = false) →
        ∀ ch ∈ name.toList, isSeparator ch = false) := by
  obtain ⟨family, s, hfamily, hspec, hpath⟩ := output_of_compile h
  have hkind := r.mode.not_isSeparator_of_mem_fileKind family
  have hid := not_isSeparator_of_mem_freshJobId word
  refine ⟨family, s, _,
    normalize (fileName (r.mode.fileKind family) (freshJobId word) r.fileSuffix), hfamily, hspec,
    hpath, fun hdir => exists_stem_eq_join hkind hid hdir _, fun hdir => stem_eq_name hdir _ _ _,
    exists_normalize_fileName hkind hid _, fun hsource => ?_⟩
  have hname := not_isSeparator_of_mem_fileName hkind hid
    (not_isSeparator_of_mem_fileSuffix hsource)
  rwa [normalize_eq_self hname]

/-- A variation of an image of a job whose id is a path is compiled. -/
theorem compile_output_path_as_id :
    ∃ x, (variation { source := some { jobId := "../../x" }, image := "a.png" }).compile
        { sampleContext with jobId := freshJobId 0xbeef } = .ok x ∧
      ∃ family s path name, x.details.family = some family ∧
        modeSpec family .weakVariation = .ok s ∧
        x.graph.value? s.save "filename_prefix" = some (.str path) ∧
        (components (Text.trim sampleContext.settings.outputs.variations).toList ≠ [] →
          ∃ place, path = place ++ "/" ++ name ∧
            SamePlace place.toList (Text.trim sampleContext.settings.outputs.variations).toList) ∧
        (components (Text.trim sampleContext.settings.outputs.variations).toList = [] →
          path = name) ∧
        (∃ tail, name = Mode.weakVariation.fileKind family ++ "_" ++ freshJobId 0xbeef ++ tail) ∧
        ((∀ id, some "../../x" = some id → ∀ ch ∈ id.toList, isSeparator ch = false) →
          ∀ ch ∈ name.toList, isSeparator ch = false) := by
  obtain ⟨x, hx⟩ := exists_compile_of_plan
    (variation { source := some { jobId := "../../x" }, image := "a.png" })
    { sampleContext with jobId := freshJobId 0xbeef } none (by decide)
  exact ⟨x, hx, compile_output 0xbeef hx⟩

/-- A context whose generations are to be saved in the root directory. -/
def rootContext : JobContext :=
  { sampleContext with
    settings := { sampleContext.settings with outputs := { generations := "/" } }
    jobId := freshJobId 0xbeef }

/-- Not every compiled job has its files directly in the directory that is configured for it: with
the root directory they are in none. -/
theorem not_forall_output_in_directory :
    ¬ ∀ (r : JobRequest) (c : JobContext) (reply : Option EnhancerReply) (word : BitVec 32)
      (x : Compiled), r.compile { c with jobId := freshJobId word } reply = .ok x →
      ∃ family s path name, x.details.family = some family ∧ modeSpec family r.mode = .ok s ∧
        x.graph.value? s.save "filename_prefix" = some (.str path) ∧
        (∀ dir, Text.nonBlank? (r.outputDirectory c.settings) = some dir →
          ∃ place, path = place ++ "/" ++ name ∧
            components place.toList = components dir.toList ∧
            isRooted place.toList = isRooted dir.toList) ∧
        (Text.nonBlank? (r.outputDirectory c.settings) = none → path = name) ∧
        (∃ tail, name = r.mode.fileKind family ++ "_" ++ freshJobId word ++ tail) ∧
        ∀ ch ∈ name.toList, isSeparator ch = false := by
  intro hplaced
  obtain ⟨x, hx⟩ := exists_compile_of_plan (generation {}) rootContext none (by decide)
  obtain ⟨family, s, hfamily, hspec, hvalue⟩ := output_of_compile hx
  obtain ⟨family', s', path, name, hfamily', hspec', hvalue', hdir, -⟩ :=
    hplaced (generation {}) rootContext none 0xbeef x hx
  obtain rfl : family = family' := Option.some.inj (hfamily.symm.trans hfamily')
  obtain rfl : s = s' := Except.ok.inj (hspec.symm.trans hspec')
  -- the separators at the end are dropped before the directory is tested for being blank
  have hstem : stem "/" "GEN" (freshJobId 0xbeef) none = "GEN_0000beef" := by decide
  have hpath : path = "GEN_0000beef" :=
    (Value.str.inj (Option.some.inj (hvalue.symm.trans hvalue'))).symm.trans hstem
  obtain ⟨place, hplace, -⟩ := hdir "/" (by decide)
  have hslash : '/' ∈ path.toList := by simp [hplace]
  rw [hpath] at hslash
  exact absurd hslash (by decide)

end JobRequest

end Renderflow
