import Renderflow.Job.Animation
import Renderflow.Proofs.Text.Print

/-!
# Scenes that are settled

What an animation settles of its motion, its size, its length, its negative prompt and its model is
a fixed point: read back from its record, ahead of the settings, it is settled as it was.
-/

namespace Renderflow

namespace Animation

/-- What is chosen among texts is trimmed and not blank. -/
theorem nonBlank?_of_firstNonBlank? {candidates : List (Option String)} {text : String}
    (h : firstNonBlank? candidates = some text) : Text.nonBlank? text = some text := by
  obtain ⟨candidate, -, hcandidate⟩ := List.exists_of_findSome?_eq_some h
  obtain ⟨source, -, hsource⟩ := Option.bind_eq_some_iff.1 hcandidate
  obtain ⟨rfl, hne⟩ := Text.nonBlank?_eq_some_iff.1 hsource
  exact Text.nonBlank?_eq_some_iff.2 ⟨Text.trim_trim source, hne⟩

theorem firstNonBlank?_cons {text : String} (h : Text.nonBlank? text = some text)
    (rest : List (Option String)) : firstNonBlank? (some text :: rest) = some text := by
  simp [firstNonBlank?, h]

theorem firstNonBlank?_none_cons (rest : List (Option String)) :
    firstNonBlank? (none :: rest) = firstNonBlank? rest := by
  simp [firstNonBlank?]

theorem le_parseResolution (text : String) :
    64 ≤ (parseResolution text).1 ∧ 64 ≤ (parseResolution text).2 := by
  have hmax : ∀ n : UInt32, 64 ≤ max n 64 := fun n =>
    UInt32.le_iff_toNat_le.2 (by rw [UInt32.toNat_max]; exact Nat.le_max_right _ _)
  -- its equation takes long to derive, for that evaluates the reader of sizes
  delta parseResolution
  split
  · exact ⟨hmax _, hmax _⟩
  · decide

theorem parseResolution_print {width height : UInt32} (hwidth : 64 ≤ width)
    (hheight : 64 ≤ height) :
    parseResolution (toString width.toNat ++ "x" ++ toString height.toNat) = (width, height) := by
  have hmax : ∀ n : UInt32, 64 ≤ n → max n 64 = n := fun n hn =>
    UInt32.toNat_inj.1 <| by
      rw [UInt32.toNat_max]
      exact Nat.max_eq_left (UInt32.le_iff_toNat_le.1 hn)
  delta parseResolution
  simp only [Image.sides?_print, hmax width hwidth, hmax height hheight]

end Animation

namespace AnimationRequest

open Animation

/-- A scene whose motion is a trimmed text in lower case, whose sides are long enough and which has
frames. -/
structure Scene.IsSettled (scene : Scene) : Prop where
  profile : Text.nonBlank? scene.profile = some scene.profile
  lower : Text.lower scene.profile = scene.profile
  width : 64 ≤ scene.width
  height : 64 ≤ scene.height
  frames : 0 < scene.frames

/-- The size that an animation asks for. -/
def size (r : AnimationRequest) (s : Settings) : UInt32 × UInt32 :=
  ((firstNonBlank? [r.resolution, r.source.animationResolution, s.wanAnimation.resolution]).map
    parseResolution).getD defaultResolution

theorem le_size (r : AnimationRequest) (s : Settings) : 64 ≤ (r.size s).1 ∧ 64 ≤ (r.size s).2 := by
  unfold size
  cases firstNonBlank? [r.resolution, r.source.animationResolution, s.wanAnimation.resolution] with
  | none => decide
  | some text =>
    rw [Option.map_some, Option.getD_some]
    exact le_parseResolution text

/-- The motion that an animation asks for. -/
def motion (r : AnimationRequest) (s : Settings) : String :=
  (firstNonBlank? [r.motionProfile, r.source.motionProfile, s.wanAnimation.motionProfile]).getD
    "medium"

theorem nonBlank?_motion (r : AnimationRequest) (s : Settings) :
    Text.nonBlank? (r.motion s) = some (r.motion s) := by
  unfold motion
  cases hmotion : firstNonBlank?
      [r.motionProfile, r.source.motionProfile, s.wanAnimation.motionProfile] with
  | none => decide
  | some text => exact nonBlank?_of_firstNonBlank? hmotion

/-- The number of frames that an animation asks for. -/
def length (r : AnimationRequest) (s : Settings) : UInt32 :=
  ([r.frames, r.source.animationFrames, s.wanAnimation.duration].findSome?
    fun n => n.filter (0 < ·)).getD 33

theorem length_pos (r : AnimationRequest) (s : Settings) : 0 < r.length s := by
  unfold length
  cases hframes : [r.frames, r.source.animationFrames, s.wanAnimation.duration].findSome?
      fun n => n.filter (0 < ·) with
  | none => decide
  | some n =>
    obtain ⟨candidate, -, hcandidate⟩ := List.exists_of_findSome?_eq_some hframes
    simpa using (Option.filter_eq_some_iff.1 hcandidate).2

/-- A scene part by part. -/
theorem scene_eq (r : AnimationRequest) (s : Settings) :
    r.scene s =
      { profile := Text.lower (r.motion s)
        width := (r.size s).1
        height := (r.size s).2
        frames := r.length s
        still := (r.scene s).still } :=
  rfl

theorem isSettled_scene (r : AnimationRequest) (s : Settings) : (r.scene s).IsSettled := by
  rw [scene_eq]
  exact ⟨Text.nonBlank?_lower (r.nonBlank?_motion s), Text.lower_lower _, (r.le_size s).1,
    (r.le_size s).2, r.length_pos s⟩

/-- A settled scene is read back as it is, but for the prompt of the still image. -/
theorem scene_of_isSettled {scene : Scene} (h : scene.IsSettled) {r : AnimationRequest}
    (hmotion : r.motionProfile = none) (hresolution : r.resolution = none)
    (hframes : r.frames = none) (hsource : r.source.motionProfile = some scene.profile)
    (hsize : r.source.animationResolution = some scene.resolution)
    (hlength : r.source.animationFrames = some scene.frames) (s : Settings) :
    r.scene s = { scene with still := (r.scene s).still } := by
  have hresolved : Text.nonBlank? scene.resolution = some scene.resolution :=
    Image.nonBlank?_print _ _
  have hsides : parseResolution scene.resolution = (scene.width, scene.height) :=
    parseResolution_print h.width h.height
  have hprofile : r.motion s = scene.profile := by
    simp only [motion, hmotion, hsource, firstNonBlank?_none_cons, firstNonBlank?_cons h.profile,
      Option.getD_some]
  have hsize : r.size s = (scene.width, scene.height) := by
    simp only [size, hresolution, hsize, firstNonBlank?_none_cons, firstNonBlank?_cons hresolved,
      Option.map_some, hsides, Option.getD_some]
  have hlength : r.length s = scene.frames := by
    simp [length, hframes, hlength, Option.filter, h.frames]
  rw [scene_eq, hprofile, hsize, hlength, h.lower]

variable {r r' : AnimationRequest} {s : Settings}

/-- A recorded negative prompt is bound again. If it was empty, the settings have none either. -/
theorem negative_of_recorded (h : r'.source.negativePrompt = some (r.negative s)) :
    r'.negative s = r.negative s := by
  unfold negative at h ⊢
  rw [h]
  cases hchosen : firstNonBlank? [r.source.negativePrompt, s.wan.negativePrompt] with
  | some text =>
    rw [Option.getD_some, firstNonBlank?_cons (nonBlank?_of_firstNonBlank? hchosen),
      Option.getD_some]
  | none =>
    have hblank : Text.nonBlank? "" = none := by decide
    have hconfigured : s.wan.negativePrompt.bind Text.nonBlank? = none := by
      simp only [firstNonBlank?, List.findSome?_eq_none_iff] at hchosen
      exact hchosen _ (by simp)
    simp [firstNonBlank?, hblank, hconfigured]

/-- A file that a loader of WAN reads is read as a model by its name. -/
theorem filename_of_readable? {filename : String} {m : Model} (h : readable? filename = some m) :
    m.filename = filename := by
  simp only [readable?] at h
  split at h
  · obtain rfl := Option.some.inj h
    rfl
  · cases h

theorem firstAsset?_of_asset {candidates : List (Option String)} {name : String}
    (h : firstAsset? candidates = some name) : firstAsset? [some name] = some name := by
  obtain ⟨candidate, -, hcandidate⟩ := List.exists_of_findSome?_eq_some h
  obtain ⟨htext, hdot⟩ := Option.filter_eq_some_iff.1 hcandidate
  obtain ⟨source, -, hsource⟩ := Option.bind_eq_some_iff.1 htext
  obtain ⟨rfl, hne⟩ := Text.nonBlank?_eq_some_iff.1 hsource
  have hname := Text.nonBlank?_eq_some_iff.2 ⟨Text.trim_trim source, hne⟩
  simp only [firstAsset?, List.findSome?_cons, Option.bind_some, hname, Option.filter_some, hdot,
    if_true]

/-- A recorded model is loaded again. Where none was, the settings name none either. -/
theorem highNoise?_of_recorded (hfamily : r'.source.family = some .wan)
    (h : r'.source.modelUsed = (r.highNoise? s).map (·.filename)) :
    r'.highNoise? s = r.highNoise? s := by
  have hsource : r'.sourceModel? = (r.highNoise? s).map (·.filename) := by
    rw [sourceModel?, if_pos hfamily, h]
  cases hmodel : r.highNoise? s with
  | some m =>
    obtain ⟨candidate, -, hread⟩ := List.exists_of_findSome?_eq_some hmodel
    obtain ⟨name, hasset, hreadable⟩ := Option.bind_eq_some_iff.1 hread
    have hname := filename_of_readable? hreadable
    rw [hmodel, Option.map_some, hname] at hsource
    simp only [highNoise?, hsource, List.findSome?_cons, firstAsset?_of_asset hasset,
      Option.bind_some, hreadable]
  | none =>
    have hconfigured : (firstAsset? [configuredModel? s]).bind readable? = none := by
      simp only [highNoise?, List.findSome?_eq_none_iff] at hmodel
      exact hmodel _ (by simp)
    have hnothing : (firstAsset? [none]).bind readable? = none := rfl
    rw [hmodel, Option.map_none] at hsource
    simp only [highNoise?, hsource, List.findSome?_cons, hnothing, hconfigured, List.findSome?_nil]

end AnimationRequest

end Renderflow
