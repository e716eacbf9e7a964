import Renderflow.Proofs.Job.Compile
import Renderflow.Proofs.Job.Planned
import Renderflow.Proofs.Job.Styles

/-!
# The prompts of follow-ups

A variation or an upscale without a prompt of its own takes the best one of the record that it
follows. The record of a variation keeps the text that its source had before an enhancement, and
that text comes before the prompt with which the variation was made.
-/

namespace Renderflow

theorem Graph.Holds.value?_eq {g : Graph} {node input text : String}
    (h : g.Holds node input Value.asString? (some text)) :
    g.value? node input = some (.str text) := by
  obtain ⟨v, a, hv, hread, ha⟩ := h
  cases v <;> simp_all [Value.asString?]

/-! ## Follow-ups of any record -/

/-- An upscale that can be planned without a record can be planned with any. -/
theorem UpscaleRequest.exists_plan_ofSource {r : UpscaleRequest} {c : JobContext} {p : Plan}
    (hp : r.plan c = .ok p) (source : Option JobDetails) :
    ∃ p', { r with source }.plan c = .ok p' := by
  obtain @⟨model, _, _, _, _, _, _, _, _, hmodel, hspec, -, hupscaler, hhelper, htemplate,
    hloaders, hlora, himage⟩ := plan_eq_ok_iff.1 hp
  obtain ⟨style, hstyle⟩ := FollowUp.exists_resolve c r.style source model.family
  exact ⟨_, plan_eq_ok_iff.2
    (.intro hmodel hspec hstyle hupscaler hhelper htemplate hloaders hlora himage)⟩

/-! ## The prompt of a follow-up -/

/-- The best prompt in the record of a variation is the text before an enhancement that its source
records, else the prompt of the variation. -/
theorem VariationRequest.bestPrompt?_of_compile {r : VariationRequest} {c : JobContext}
    {x : Compiled} (hx : r.compile c = .ok x) :
    x.details.bestPrompt? = ((r.source.bind (·.originalPrompt)).bind Text.nonBlank?).or
      (Text.nonBlank? r.boundPrompt) := by
  obtain ⟨p, hp, hx⟩ := bind_eq_ok_iff.1 hx
  obtain ⟨draft, -, rfl⟩ := Plan.compile_eq_ok_iff.1 hx
  obtain ⟨⟩ := plan_eq_ok_iff.1 hp
  cases horiginal : (r.source.bind (·.originalPrompt)).bind Text.nonBlank? with
  | none => simp [JobDetails.bestPrompt?, details, horiginal]
  | some text => simp [JobDetails.bestPrompt?, details, horiginal]

/-- The edited prompt of a variation is bound as it is, unless it is blank. -/
theorem VariationRequest.nonBlank?_boundPrompt {r : VariationRequest} {edited : String}
    (hprompt : r.prompt = some edited) (hedited : (Text.nonBlank? edited).isSome) :
    Text.nonBlank? r.boundPrompt = some (Text.trim edited) := by
  obtain ⟨text, htext⟩ := Option.isSome_iff_exists.1 hedited
  obtain ⟨rfl, -⟩ := Text.nonBlank?_eq_some_iff.1 htext
  simp [boundPrompt, hprompt, htext]

namespace JobRequest

/-- A follow-up that brings no prompt of its own. -/
def InheritsPrompt : JobRequest → Prop
  | variation r => r.prompt = none
  | upscale _ => True
  | _ => False

theorem mode_ofSource (f : JobRequest) (d : JobDetails) : (f.ofSource d).mode = f.mode := by
  cases f <;> rfl

variable {f : JobRequest} {c c' : JobContext} {reply : Option EnhancerReply} {x x' : Compiled}

/-- A follow-up without a prompt of its own records the best prompt of the record it follows. -/
theorem prompt_of_ofSource (hf : f.InheritsPrompt) {d : JobDetails} {text : String}
    (hd : d.bestPrompt? = some text) (hx : (f.ofSource d).compile c reply = .ok x) :
    x.details.prompt = some text := by
  obtain ⟨p, _, _, _, _, notes, hp, -, -, hrecord⟩ := exists_plan_of_compile hx
  rw [hrecord]
  cases f with
  | variation r =>
    obtain ⟨⟩ := VariationRequest.plan_eq_ok_iff.1 hp
    have hnone : r.prompt = none := hf
    simp [VariationRequest.details, VariationRequest.boundPrompt, hnone, hd]
  | upscale r =>
    obtain ⟨⟩ := UpscaleRequest.plan_eq_ok_iff.1 hp
    simp [UpscaleRequest.details, UpscaleRequest.boundPrompt, hd]
  | generation | edit | animation => cases hf

/-- A follow-up without a prompt of its own binds the best prompt of the record it follows. -/
theorem positive_of_ofSource (hf : f.InheritsPrompt) {d : JobDetails} {text : String}
    (hd : d.bestPrompt? = some text) (hx : (f.ofSource d).compile c reply = .ok x) :
    ∃ family s, x.details.family = some family ∧ modeSpec family f.mode = .ok s ∧
      x.graph.value? s.positivePrompt "text" = some (.str text) := by
  obtain ⟨family, s, l, start, hconforms⟩ := ((f.ofSource d).compile_delivers c reply).value x hx
  have hpositive := hconforms.reports.prompts.positive
  rw [prompt_of_ofSource hf hd hx] at hpositive
  exact ⟨family, s, hconforms.ofFamily, mode_ofSource f d ▸ hconforms.spec, hpositive.value?_eq⟩

/-- A follow-up of a variation with an edited prompt binds the text before an enhancement that the
source of the variation records. Only without such a text does it bind the edited prompt. -/
theorem compile_followed_prompt {r : VariationRequest} {edited : String}
    (hprompt : r.prompt = some edited) (hedited : (Text.nonBlank? edited).isSome)
    (hx : r.compile c = .ok x) (hf : f.InheritsPrompt)
    (hx' : (f.ofSource x.details).compile c' reply = .ok x') :
    ∃ family s, x'.details.family = some family ∧ modeSpec family f.mode = .ok s ∧
      x'.graph.value? s.positivePrompt "text" = some (.str
        (((r.source.bind (·.originalPrompt)).bind Text.nonBlank?).getD (Text.trim edited))) := by
  apply positive_of_ofSource hf _ hx'
  rw [VariationRequest.bestPrompt?_of_compile hx,
    VariationRequest.nonBlank?_boundPrompt hprompt hedited, Option.or_some]

/-- A variation with an edited prompt whose source has a text from before an enhancement. -/
def redCastle : VariationRequest :=
  { source := some { jobId := "deadbeef", originalPrompt := some "a castle" }
    image := "a.png"
    prompt := some "a red castle" }

/-- An upscale in the sample context is compiled, whichever record it follows. -/
theorem exists_compile_upscale (d : JobDetails) :
    ∃ x, ((upscale { image := "b.png" }).ofSource d).compile sampleContext = .ok x := by
  obtain ⟨x₀, hx₀⟩ := exists_compile_of_plan (upscale { image := "b.png" }) sampleContext none
    (by decide)
  obtain ⟨p₀, hp₀, -⟩ := bind_eq_ok_iff.1 hx₀
  obtain ⟨p, hp⟩ := UpscaleRequest.exists_plan_ofSource hp₀ (some d)
  exact exists_compile_of_plan ((upscale { image := "b.png" }).ofSource d) sampleContext none
    (by simp [plan, ofSource, hp, Except.isOk, Except.toBool])

/-- The variation of the castle and an upscale that follows it are compiled. -/
theorem exists_castle :
    ∃ x x', redCastle.compile sampleContext = .ok x ∧
      ((upscale { image := "b.png" }).ofSource x.details).compile sampleContext = .ok x' := by
  obtain ⟨x, hx⟩ := exists_compile_of_plan (variation redCastle) sampleContext none
    (by decide)
  obtain ⟨x', hx'⟩ := exists_compile_upscale x.details
  exact ⟨x, x', hx, hx'⟩

/-- The upscale binds the text from before the enhancement. -/
theorem compile_followed_prompt_castle :
    ∃ x x', redCastle.compile sampleContext = .ok x ∧
      ((upscale { image := "b.png" }).ofSource x.details).compile sampleContext = .ok x' ∧
      ∃ family s, x'.details.family = some family ∧ modeSpec family .upscale = .ok s ∧
        x'.graph.value? s.positivePrompt "text" = some (.str "a castle") := by
  obtain ⟨x, x', hx, hx'⟩ := exists_castle
  exact ⟨x, x', hx, hx', compile_followed_prompt (f := upscale { image := "b.png" }) rfl
    (by decide) hx trivial hx'⟩

/-- Not every follow-up of a variation with an edited prompt binds the edited prompt. -/
theorem not_forall_edited_prompt_followed :
    ¬ ∀ (r : VariationRequest) (edited : String) (f : JobRequest) (c c' : JobContext)
      (x x' : Compiled), r.prompt = some edited → (Text.nonBlank? edited).isSome →
      r.compile c = .ok x → f.InheritsPrompt → (f.ofSource x.details).compile c' = .ok x' →
        ∃ family s, x'.details.family = some family ∧ modeSpec family f.mode = .ok s ∧
          x'.graph.value? s.positivePrompt "text" = some (.str (Text.trim edited)) := by
  intro hfollowed
  obtain ⟨x, x', hx, hx'⟩ := exists_castle
  have hbest : x.details.bestPrompt? = some "a castle" := VariationRequest.bestPrompt?_of_compile hx
  obtain ⟨family, s, hfamily, hspec, hcastle⟩ :=
    positive_of_ofSource (f := upscale { image := "b.png" }) trivial hbest hx'
  obtain ⟨family', s', hfamily', hspec', hedited⟩ :=
    hfollowed _ _ (upscale { image := "b.png" }) _ _ x x' rfl (by decide) hx trivial hx'
  obtain rfl : family = family' := Option.some.inj (hfamily.symm.trans hfamily')
  obtain rfl : s = s' := Except.ok.inj (hspec.symm.trans hspec')
  have htext := Value.str.inj (Option.some.inj (hcastle.symm.trans hedited))
  exact absurd htext (by decide)

end JobRequest

end Renderflow
