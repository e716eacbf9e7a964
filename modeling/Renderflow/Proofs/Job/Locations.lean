import Renderflow.Proofs.Job.Compile
import Renderflow.Proofs.Job.Planned
import Renderflow.Proofs.OutputPath

/-!
# The images of a compiled job

A generation and an edit load the places that are asked for an image, as they are. A follow-up
takes its image to be a path and normalizes it, which leaves nothing a URL.
-/

namespace Renderflow

theorem GenerationRequest.sources_of_start {r : GenerationRequest} {c : JobContext} {start : Start}
    (h : r.start c = .ok start) (d : JobDetails)
    (hd : d.imageSource = none ∧ d.imageSources = none) :
    (start.record d).sources = (JobRequest.generation r).locations := by
  unfold GenerationRequest.start at h
  cases himage : r.image.bind Text.nonBlank? with
  | some text =>
    simp only [himage] at h
    obtain ⟨source, hresolve, hstart⟩ := bind_eq_ok_iff.1 h
    cases hstart
    obtain ⟨spec, hparse, hrest⟩ := bind_eq_ok_iff.1 hresolve
    obtain ⟨-, -, hspec⟩ := bind_eq_ok_iff.1 hrest
    cases hspec
    rw [CompileError.validation_eq_ok_iff] at hparse
    simp [JobRequest.locations, himage, hparse, Start.record, JobDetails.sources, hd]
  | none =>
    simp only [himage] at h
    obtain ⟨ratio, -, hstart⟩ := bind_eq_ok_iff.1 h
    cases hstart
    simp [JobRequest.locations, himage, Start.record, JobDetails.sources, hd]

theorem EditRequest.validImages_eq {r : EditRequest} {c : JobContext} {images : List String}
    (h : r.validImages c = .ok images) : images = (JobRequest.edit r).locations := by
  obtain ⟨-, -, himages⟩ := bind_eq_ok_iff.1 h
  exact (Except.ok.inj himages).symm

namespace JobRequest

variable {r : JobRequest} {c : JobContext} {reply : Option EnhancerReply}

/-- The image of a finished job that a request follows up. -/
def followedImage? : JobRequest → Option String
  | variation r => some r.image
  | upscale r => some r.image
  | animation r => some r.image
  | generation _ | edit _ => none

/-- The places that a job loads its images from. -/
def boundLocations (r : JobRequest) : List String :=
  match r.followedImage? with
  | some image => [OutputPath.normalize (Text.trim image)]
  | none => r.locations

theorem sources_of_plan {p : Plan} (hp : r.plan c reply = .ok p) :
    p.details.sources = r.boundLocations ∧ ∀ image, r.followedImage? = some image →
      p.details.imageSource = some (OutputPath.normalize (Text.trim image)) := by
  cases r with
  | generation r =>
    obtain @⟨_, _, _, _, _, _, _, _, _, _, -, hstart, -, -, -, -, -, -, -, -⟩ :=
      GenerationRequest.plan_eq_ok_iff.1 hp
    exact ⟨GenerationRequest.sources_of_start hstart _ ⟨rfl, rfl⟩, by simp [followedImage?]⟩
  | variation r =>
    obtain ⟨⟩ := VariationRequest.plan_eq_ok_iff.1 hp
    exact ⟨rfl, by simp [followedImage?, VariationRequest.details, VariationRequest.location]⟩
  | upscale r =>
    obtain ⟨⟩ := UpscaleRequest.plan_eq_ok_iff.1 hp
    exact ⟨rfl, by simp [followedImage?, UpscaleRequest.details, UpscaleRequest.location]⟩
  | edit r =>
    rcases EditRequest.plan_eq_ok_iff.1 hp with ⟨-, hflux⟩ | ⟨-, hqwen⟩
    · obtain @⟨_, _, _, _, _, _, _, _, _, -, -, himages, -, -, -, -, -, -, -⟩ := hflux
      exact ⟨EditRequest.validImages_eq himages, by simp [followedImage?]⟩
    · obtain @⟨_, _, _, _, _, _, _, -, -, himages, -, -, -, -, -⟩ := hqwen
      exact ⟨EditRequest.validImages_eq himages, by simp [followedImage?]⟩
  | animation r =>
    obtain ⟨⟩ := AnimationRequest.plan_eq_ok_iff.1 hp
    exact ⟨rfl, by simp [followedImage?, AnimationRequest.details, AnimationRequest.location]⟩

/-- The load nodes of a compiled job have the places of its images, and so has its record. What a
follow-up loads is the normalized path of its image and never a URL. -/
theorem compile_locations {x : Compiled} (h : r.compile c reply = .ok x) :
    ∃ family s, x.details.family = some family ∧ modeSpec family r.mode = .ok s ∧
      (s.loadNodes family (r.extent c).images).map (x.graph.value? · "url_or_path") =
        r.boundLocations.map (fun l => some (.str l)) ∧
      x.details.sources = r.boundLocations ∧
      ∀ image, r.followedImage? = some image →
        x.details.imageSource = some (OutputPath.normalize (Text.trim image)) ∧
          Image.isUrl (OutputPath.normalize (Text.trim image)) = false := by
  obtain ⟨family, s, l, start, hconforms⟩ := (r.compile_delivers c reply).value x h
  rw [compile_eq] at h
  obtain ⟨p, hp, hx⟩ := bind_eq_ok_iff.1 h
  obtain ⟨d, -, rfl⟩ := Plan.compile_eq_ok_iff.1 hx
  obtain ⟨hsources, hsource⟩ := sources_of_plan hp
  refine ⟨family, s, hconforms.ofFamily, hconforms.spec, ?_, hsources, fun image himage =>
    ⟨hsource image himage, Image.isUrl_normalize _⟩⟩
  rw [← hsources]
  exact hconforms.reports.images.sources

theorem exists_compile_url :
    ∃ x, (variation { image := "https://h/a.png" }).compile sampleContext = .ok x :=
  exists_compile_of_plan _ sampleContext none (by decide)

/-- A variation of an image that is given by a URL is compiled. -/
theorem compile_locations_url :
    ∃ x, (variation { image := "https://h/a.png" }).compile sampleContext = .ok x ∧
      ∃ family s, x.details.family = some family ∧ modeSpec family .weakVariation = .ok s ∧
        (s.loadNodes family 1).map (x.graph.value? · "url_or_path") =
          [some (.str "https:/h/a.png")] ∧
        x.details.sources = ["https:/h/a.png"] ∧
        ∀ image, some "https://h/a.png" = some image →
          x.details.imageSource = some (OutputPath.normalize (Text.trim image)) ∧
            Image.isUrl (OutputPath.normalize (Text.trim image)) = false := by
  obtain ⟨x, hx⟩ := exists_compile_url
  exact ⟨x, hx, compile_locations hx⟩

/-- Not every follow-up of an image that is given by a URL records the URL. -/
theorem not_forall_followed_url_kept :
    ¬ ∀ (r : JobRequest) (c : JobContext) (x : Compiled) (image : String),
      r.followedImage? = some image → Image.isUrl (Text.trim image) → r.compile c = .ok x →
        x.details.imageSource = some (Text.trim image) := by
  intro hkept
  obtain ⟨x, hx⟩ := exists_compile_url
  have hurl := hkept _ _ x _ rfl (by decide) hx
  rw [compile_eq] at hx
  obtain ⟨p, hp, hx⟩ := bind_eq_ok_iff.1 hx
  obtain ⟨d, -, rfl⟩ := Plan.compile_eq_ok_iff.1 hx
  have hpath := (sources_of_plan hp).2 _ rfl
  rw [hpath] at hurl
  exact absurd (Option.some.inj hurl) (by decide)

end JobRequest

end Renderflow
