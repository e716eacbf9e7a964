import Renderflow.Proofs.Job.Family
import Renderflow.Proofs.Job.Files
import Renderflow.Proofs.Job.Ordinary
import Renderflow.Proofs.Lockstep

/-!
# Jobs up to their ids

Two runs of a request with a seed, each with an id of its own, end alike. The jobs they make are
one but for the id in the record, in the path of the files and in the message.
-/

namespace Renderflow

/-- A text that depends on an id at most by holding it. -/
inductive SameAround (id id' : String) : String → String → Prop
  | same (text : String) : SameAround id id' text text
  | around (head tail : String) : SameAround id id' (head ++ id ++ tail) (head ++ id' ++ tail)

/-- Two plans that are one but for the ids of their jobs. -/
structure Plan.SameUpToId (mode : Mode) (id id' : String) (p p' : Plan) : Prop where
  jobId : p.details.jobId = id
  template : p'.template = p.template
  bindings : ∃ family s bs path path', p.details.family = some family ∧
    modeSpec family mode = .ok s ∧ SameAround id id' path path' ∧
    p.bindings = bs ++ s.outputBindings path ∧ p'.bindings = bs ++ s.outputBindings path'
  details : p'.details = { p.details with jobId := id' }
  message : SameAround id id' p.message p'.message

/-- Two jobs that are one but for their ids. The path of the files holds the id, and so does its
entry in the notes. -/
structure Compiled.SameUpToId (mode : Mode) (id id' : String) (x x' : Compiled) : Prop where
  jobId : x.details.jobId = id
  path : ∃ family s path path', x.details.family = some family ∧ modeSpec family mode = .ok s ∧
    SameAround id id' path path' ∧
    x.graph.value? s.save "filename_prefix" = some (.str path) ∧
    x.graph.setInput s.save "filename_prefix" (.str path') = .ok x'.graph ∧
    x.details.parametersUsed.find? (Binding.key s.save "filename_prefix") = some (.str path) ∧
    x'.details = { x.details with
      jobId := id'
      parametersUsed :=
        x.details.parametersUsed.insert (Binding.key s.save "filename_prefix") (.str path') }
  message : SameAround id id' x.message x'.message

theorem Plan.details_of_compile {p : Plan} {x : Compiled} (h : p.compile = .ok x) :
    x.details = { p.details with parametersUsed := Table.ofList (p.bindings.filterMap (·.note)) } ∧
      x.message = p.message := by
  obtain ⟨d, hd, rfl⟩ := Plan.compile_eq_ok_iff.1 h
  exact ⟨by rw [Draft.notes_bindAll hd]; rfl, rfl⟩

theorem ModeSpec.notes_outputBindings (s : ModeSpec) (bs : List Binding) (path : String) :
    Table.ofList ((bs ++ s.outputBindings path).filterMap (·.note)) =
      (Table.ofList (bs.filterMap (·.note))).insert (Binding.key s.save "filename_prefix")
        (.str path) := by
  rw [List.filterMap_append]
  exact Table.ofList_concat _ _

variable {id id' : String}

theorem Plan.SameUpToId.compile {mode : Mode} {p p' : Plan} {x x' : Compiled}
    (h : p.SameUpToId mode id id' p') (hx : p.compile = .ok x) (hx' : p'.compile = .ok x') :
    x.SameUpToId mode id id' x' := by
  obtain ⟨family, s, bs, path, path', hfamily, hspec, haround, hbindings, hbindings'⟩ := h.bindings
  obtain ⟨x₁, hx₁, hvalue, hset⟩ :=
    Plan.exists_compile_of_set_last hbindings h.template hbindings' hx
  obtain rfl : x' = x₁ := Except.ok.inj (hx'.symm.trans hx₁)
  obtain ⟨hdetails, hmessage⟩ := Plan.details_of_compile hx
  obtain ⟨hdetails', hmessage'⟩ := Plan.details_of_compile hx'
  have hnotes := s.notes_outputBindings bs
  refine ⟨by rw [hdetails]; exact h.jobId, ⟨family, s, path, path', by rw [hdetails]; exact hfamily,
    hspec, haround, hvalue, hset, ?_, ?_⟩, ?_⟩
  · rw [hdetails, hbindings, hnotes, Table.find?_insert, if_pos rfl]
  · rw [hdetails', hdetails, h.details, hbindings, hbindings', hnotes, hnotes, Table.insert_insert]
  · rw [hmessage, hmessage']
    exact h.message

/-- Runs of a request that are planned in lockstep are compiled in lockstep, for a plan never
fails. -/
theorem JobRequest.compile_lockstep {r : JobRequest} {c c' : JobContext}
    {reply reply' : Option EnhancerReply} {R : Plan → Plan → Prop} {S : Compiled → Compiled → Prop}
    (h : Lockstep R (r.plan c reply) (r.plan c' reply'))
    (hRS : ∀ p p' x x', R p p' → p.compile = .ok x → p'.compile = .ok x' →
      r.compile c reply = .ok x → r.compile c' reply' = .ok x' → S x x') :
    Lockstep S (r.compile c reply) (r.compile c' reply') := by
  rw [compile_eq, compile_eq] at *
  refine h.bind fun p p' hp hp' hR => ?_
  obtain ⟨_, _, _, _, hfollows⟩ := (r.plan_delivers c reply).value p hp
  obtain ⟨_, _, _, _, hfollows'⟩ := (r.plan_delivers c' reply').value p' hp'
  obtain ⟨x, hx, -⟩ := hfollows.exists_compile
  obtain ⟨x', hx', -⟩ := hfollows'.exists_compile
  rw [hx, hx']
  refine .ok (hRS p p' x x' hR hx hx' ?_ ?_)
  · rw [hp]
    exact hx
  · rw [hp']
    exact hx'

section

open OutputPath

variable {c : JobContext} {freshSeed : Int64} (hid : ∀ ch ∈ id.toList, isSeparator ch = false)
  (hid' : ∀ ch ∈ id'.toList, isSeparator ch = false)

include hid hid'

theorem sameAround_stem (dir kind : String) (suffix : Option String) :
    SameAround id id' (stem dir kind id suffix) (stem dir kind id' suffix) := by
  obtain ⟨head, tail, hstem⟩ := exists_stem_eq_around dir kind suffix
  rw [hstem id hid, hstem id' hid']
  exact .around head tail

theorem GenerationRequest.plan_sameUpToId {r : GenerationRequest} (hseed : r.seed.isSome) :
    Lockstep (Plan.SameUpToId (JobRequest.generation r).mode id id')
      (r.plan { c with jobId := id }) (r.plan { c with jobId := id', freshSeed }) := by
  have hsampling : ∀ family denoise, r.sampling { c with jobId := id', freshSeed } family denoise =
      r.sampling { c with jobId := id } family denoise := by
    intro family denoise
    simp only [sampling, ← Option.get_eq_getD r.seed (h := hseed)]
  unfold plan
  refine .bind_same fun model _ => .bind_same fun start hstart => .bind_same fun s hspec =>
    .bind_same fun style _ => .bind_same fun template _ => .bind_same fun loaders _ =>
    .bind_same fun second _ => .bind_same fun lora _ => ?_
  rw [hsampling]
  refine .bind_same fun samplers _ => .bind_same fun source _ => .ok ?_
  rw [CompileError.validation_eq_ok_iff, (r.start_delivers _).value start hstart] at hspec
  refine ⟨by cases start <;> rfl, rfl, ⟨model.family, s, _, _, _, by cases start <;> rfl, hspec,
    sameAround_stem hid hid' _ _ _, rfl, rfl⟩, ?_, ?_⟩
  · cases start <;> simp only [details, Start.record, hsampling] <;> rfl
  · simpa only [String.append_assoc] using SameAround.around "Prompt prepared for job "
      (" (" ++ model.family.tag ++ " " ++ start.label ++ ").")

theorem VariationRequest.plan_sameUpToId {r : VariationRequest} (hseed : r.seed.isSome) :
    Lockstep (Plan.SameUpToId (JobRequest.variation r).mode id id')
      (r.plan { c with jobId := id }) (r.plan { c with jobId := id', freshSeed }) := by
  have hsampling : ∀ family, r.sampling { c with jobId := id', freshSeed } family =
      r.sampling { c with jobId := id } family := by
    intro family
    simp only [sampling, ← Option.get_eq_getD r.seed (h := hseed)]
  unfold plan
  refine .bind_same fun model _ => .bind_same fun s hspec => .bind_same fun style _ =>
    .bind_same fun template _ => .bind_same fun loaders _ => .bind_same fun second _ =>
    .bind_same fun lora _ => ?_
  rw [hsampling]
  refine .bind_same fun samplers _ => .bind_same fun image _ => .ok ?_
  rw [CompileError.validation_eq_ok_iff] at hspec
  refine ⟨rfl, rfl, ⟨model.family, s, _, _, _, rfl, hspec, sameAround_stem hid hid' _ _ _, rfl,
    rfl⟩, ?_, .same _⟩
  simp only [details, hsampling]
  rfl

theorem UpscaleRequest.plan_sameUpToId {r : UpscaleRequest} (hseed : r.seed.isSome) :
    Lockstep (Plan.SameUpToId (JobRequest.upscale r).mode id id')
      (r.plan { c with jobId := id }) (r.plan { c with jobId := id', freshSeed }) := by
  have hgiven : r.seed.getD freshSeed = r.seed.getD c.freshSeed :=
    (Option.get_eq_getD r.seed (h := hseed)).symm.trans (Option.get_eq_getD r.seed)
  unfold plan
  refine .bind_same fun model _ => .bind_same fun s hspec => .bind_same fun style _ =>
    .bind_same fun upscaler _ => .bind_same fun helper _ => .bind_same fun template _ =>
    .bind_same fun loaders _ => .bind_same fun lora _ => .bind_same fun image _ => ?_
  rw [CompileError.validation_eq_ok_iff] at hspec
  simp only [hgiven]
  refine .ok ⟨rfl, rfl, ⟨model.family, s, _, _, _, rfl, hspec, sameAround_stem hid hid' _ _ _, rfl,
    rfl⟩, ?_, .same _⟩
  simp only [details, hgiven]
  rfl

namespace EditRequest

variable {r : EditRequest} (hseed : r.seed.isSome)

include hseed

theorem fluxPlan_sameUpToId : Lockstep (Plan.SameUpToId .edit id id')
    (r.fluxPlan { c with jobId := id }) (r.fluxPlan { c with jobId := id', freshSeed }) := by
  have hsampling : r.fluxSampling { c with jobId := id', freshSeed } =
      r.fluxSampling { c with jobId := id } := by
    simp only [fluxSampling, ← Option.get_eq_getD r.seed (h := hseed)]
  unfold fluxPlan
  refine .bind_same fun s hspec => .bind_same fun _ _ => .bind_same fun images _ =>
    .bind_same fun model _ => .bind_same fun ratio _ => .bind_same fun vaeLoader _ =>
    .bind_same fun template _ => .bind_same fun first _ => ?_
  rw [hsampling]
  refine .bind_same fun samplers _ => .bind_same fun latent _ => .ok ?_
  rw [CompileError.validation_eq_ok_iff] at hspec
  refine ⟨rfl, rfl, ⟨.flux, s, _, _, _, rfl, hspec, sameAround_stem hid hid' _ _ _, rfl, rfl⟩, ?_,
    .around "Kontext edit job " " prepared."⟩
  simp only [fluxDetails, hsampling]

theorem qwenPlan_sameUpToId : Lockstep (Plan.SameUpToId .edit id id')
    (r.qwenPlan { c with jobId := id }) (r.qwenPlan { c with jobId := id', freshSeed }) := by
  have hsampling : r.qwenSampling { c with jobId := id', freshSeed } =
      r.qwenSampling { c with jobId := id } := by
    simp only [qwenSampling, ← Option.get_eq_getD r.seed (h := hseed)]
  unfold qwenPlan
  refine .bind_same fun s hspec => .bind_same fun _ _ => .bind_same fun images _ =>
    .bind_same fun model hmodel => .bind_same fun template _ => .bind_same fun lora _ => ?_
  rw [hsampling]
  refine .bind_same fun samplers _ => .bind_same fun image _ => .ok ?_
  rw [CompileError.validation_eq_ok_iff] at hspec
  rw [CompileError.resource_eq_ok_iff] at hmodel
  refine ⟨rfl, rfl, ⟨.qwen, s, _, _, _, congrArg some (family_of_qwenModel hmodel), hspec,
    sameAround_stem hid hid' _ _ _, rfl, rfl⟩, ?_, .around "Qwen edit job " " prepared."⟩
  simp only [qwenDetails, hsampling]

theorem plan_sameUpToId : Lockstep (Plan.SameUpToId .edit id id')
    (r.plan { c with jobId := id }) (r.plan { c with jobId := id', freshSeed }) := by
  unfold plan
  refine .bind_same fun family _ => ?_
  cases family with
  | flux => exact fluxPlan_sameUpToId hid hid' hseed
  | qwen => exact qwenPlan_sameUpToId hid hid' hseed
  | sdxl | wan => exact .error _

end EditRequest

theorem AnimationRequest.plan_sameUpToId {r : AnimationRequest} (hseed : r.seed.isSome)
    (reply : Option EnhancerReply) : Lockstep (Plan.SameUpToId .animation id id')
      (r.plan { c with jobId := id } reply) (r.plan { c with jobId := id', freshSeed } reply) := by
  have hsampling : r.sampling { c with jobId := id', freshSeed } =
      r.sampling { c with jobId := id } := by
    simp only [sampling, ← Option.get_eq_getD r.seed (h := hseed)]
  unfold plan
  refine .bind_same fun s hspec => .bind_same fun video _ => .bind_same fun template _ =>
    .bind_same fun first _ => .bind_same fun second _ => .bind_same fun image _ => ?_
  rw [hsampling]
  refine .bind_same fun samplers _ => .ok ?_
  rw [CompileError.validation_eq_ok_iff] at hspec
  refine ⟨rfl, rfl,
    ⟨.wan, s, _, _, _, rfl, hspec, sameAround_stem hid hid' _ _ _, rfl, rfl⟩, ?_, ?_⟩
  · simp only [details, hsampling]
  · simpa only [String.append_assoc] using SameAround.around "WAN animation job "
      (" prepared (" ++ toString (r.scene c.settings).frames.toNat ++ " frames).")

end

namespace JobRequest

/-- The seed that a request gives. -/
def seed? : JobRequest → Option Int64
  | generation r => r.seed
  | variation r => r.seed
  | upscale r => r.seed
  | edit r => r.seed
  | animation r => r.seed

/-- A request with a seed is planned up to the id of its job. -/
theorem plan_sameUpToId {r : JobRequest} (hseed : r.seed?.isSome) (c : JobContext)
    (reply : Option EnhancerReply) (word word' : BitVec 32) (freshSeed : Int64) :
    Lockstep (Plan.SameUpToId r.mode (freshJobId word) (freshJobId word'))
      (r.plan { c with jobId := freshJobId word } reply)
      (r.plan { c with jobId := freshJobId word', freshSeed } reply) := by
  have hid := not_isSeparator_of_mem_freshJobId word
  have hid' := not_isSeparator_of_mem_freshJobId word'
  cases r with
  | generation r => exact r.plan_sameUpToId hid hid' hseed
  | variation r => exact r.plan_sameUpToId hid hid' hseed
  | upscale r => exact r.plan_sameUpToId hid hid' hseed
  | edit r => exact r.plan_sameUpToId hid hid' hseed
  | animation r => exact r.plan_sameUpToId hid hid' hseed reply

/-- A request with a seed is compiled up to the id of its job. -/
theorem compile_sameUpToId {r : JobRequest} (hseed : r.seed?.isSome) (c : JobContext)
    (reply : Option EnhancerReply) (word word' : BitVec 32) (freshSeed : Int64) :
    Lockstep (Compiled.SameUpToId r.mode (freshJobId word) (freshJobId word'))
      (r.compile { c with jobId := freshJobId word } reply)
      (r.compile { c with jobId := freshJobId word', freshSeed } reply) :=
  compile_lockstep (plan_sameUpToId hseed c reply word word' freshSeed)
    fun _ _ _ _ hsame hx hx' _ _ => hsame.compile hx hx'

end JobRequest

end Renderflow
