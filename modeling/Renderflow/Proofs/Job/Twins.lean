import Renderflow.Proofs.Graph.AgreeExcept
import Renderflow.Proofs.Job.Notes

/-!
# Twin plans

Two plans on one template are twins when they set the same inputs, some of them to other values.
What is compiled of them agrees except at these inputs, in the graph as in the notes.
-/

namespace Renderflow

variable {places : List (String × String)}

/-- One binding, or two bindings that set an input at one of some places. -/
inductive Binding.Twins (places : List (String × String)) : Binding → Binding → Prop
  | same (b : Binding) : Twins places b b
  | set {node input : String} (v w : Value) (h : (node, input) ∈ places) :
    Twins places (.set node input v) (.set node input w)

namespace Binding.Twins

theorem refl_all (bs : List Binding) : List.Forall₂ (Twins places) bs bs :=
  List.forall₂_same.2 fun b _ => .same b

theorem append {bs bs' cs cs' : List Binding} (hbs : List.Forall₂ (Twins places) bs bs')
    (hcs : List.Forall₂ (Twins places) cs cs') :
    List.Forall₂ (Twins places) (bs ++ cs) (bs' ++ cs') :=
  List.rel_append hbs hcs

theorem append_same {bs bs' : List Binding} (hbs : List.Forall₂ (Twins places) bs bs')
    (cs : List Binding) : List.Forall₂ (Twins places) (bs ++ cs) (bs' ++ cs) :=
  append hbs (refl_all cs)

variable {b b' : Binding}

theorem written?_eq (h : b.Twins places b') {id name : String} (hout : (id, name) ∉ places) :
    b'.edit.written? id name = b.edit.written? id name := by
  cases h with
  | same b => rfl
  | @set node input v w h =>
    have hne : ¬ (id = node ∧ name = input) := by
      rintro ⟨rfl, rfl⟩
      exact hout h
    simp [Binding.set, Edit.written?, hne]

theorem relabeled?_eq (h : b.Twins places b') (id : String) :
    b'.edit.relabeled? id = b.edit.relabeled? id := by
  cases h <;> rfl

end Binding.Twins

namespace ModeSpec

variable {s : ModeSpec}

theorem twins_promptBindings (h : (s.positivePrompt, "text") ∈ places)
    (positive positive' negative : String) :
    List.Forall₂ (Binding.Twins places) (s.promptBindings positive negative)
      (s.promptBindings positive' negative) :=
  .cons (.set _ _ h) (Binding.Twins.refl_all _)

theorem twins_outputBindings (h : (s.save, "filename_prefix") ∈ places) (path path' : String) :
    List.Forall₂ (Binding.Twins places) (s.outputBindings path) (s.outputBindings path') :=
  .cons (.set _ _ h) .nil

/-- The image may be another one. -/
theorem twins_imageBindings {location : String} {bs : List Binding}
    (h : ∀ load, s.loadImage = some load → (load, "url_or_path") ∈ places)
    (hbs : s.imageBindings location = .ok bs) (location' : String) :
    ∃ bs', s.imageBindings location' = .ok bs' ∧ List.Forall₂ (Binding.Twins places) bs bs' := by
  obtain ⟨load, hload, hrest⟩ := bind_eq_ok_iff.1 hbs
  cases hrest
  refine ⟨_, bind_eq_ok_iff.2 ⟨load, hload, rfl⟩, .cons (.set _ _ ?_) (Binding.Twins.refl_all _)⟩
  cases hloader : s.loadImage with
  | none => simp [hloader, require] at hload
  | some node =>
    obtain rfl : node = load := by simpa [hloader, require] using hload
    exact h node hloader

section

variable {template : Graph} {p : Sampling} {bs : List Binding}
  (h : ∀ node ∈ s.samplers, ∀ input, seedInput template node = .ok input → (node, input) ∈ places)

include h

theorem twins_stageBindings {node : String} (hnode : node ∈ s.samplers)
    (hbs : stageBindings template p node = .ok bs) (seed : Int64) :
    ∃ bs', stageBindings template { p with seed } node = .ok bs' ∧
      List.Forall₂ (Binding.Twins places) bs bs' := by
  obtain ⟨input, hinput, hrest⟩ := bind_eq_ok_iff.1 hbs
  cases hrest
  exact ⟨_, bind_eq_ok_iff.2 ⟨input, hinput, rfl⟩,
    .cons (.set _ _ (h node hnode input hinput)) (Binding.Twins.refl_all _)⟩

/-- The seed may be another one. -/
theorem twins_samplerBindings (hbs : s.samplerBindings template p = .ok bs) (seed : Int64) :
    ∃ bs', s.samplerBindings template { p with seed } = .ok bs' ∧
      List.Forall₂ (Binding.Twins places) bs bs' := by
  unfold samplerBindings at hbs ⊢
  cases hinitial : s.initialSampler with
  | some initial =>
    simp only [hinitial] at hbs ⊢
    obtain ⟨first, hfirst, hrest⟩ := bind_eq_ok_iff.1 hbs
    obtain ⟨final, hfinal, hrest⟩ := bind_eq_ok_iff.1 hrest
    cases hrest
    obtain ⟨first', hfirst', htwins⟩ :=
      twins_stageBindings h (by simp [samplers, hinitial]) hfirst seed
    obtain ⟨final', hfinal', htwins'⟩ := twins_stageBindings h (by simp [samplers]) hfinal seed
    exact ⟨_, bind_eq_ok_iff.2 ⟨first', hfirst', bind_eq_ok_iff.2 ⟨final', hfinal', rfl⟩⟩,
      Binding.Twins.append_same (Binding.Twins.append htwins htwins') _⟩
  | none =>
    simp only [hinitial] at hbs ⊢
    obtain ⟨input, hinput, hrest⟩ := bind_eq_ok_iff.1 hbs
    cases hrest
    exact ⟨_, bind_eq_ok_iff.2 ⟨input, hinput, rfl⟩,
      .cons (.set _ _ (h s.sampler (by simp [samplers]) input hinput)) (Binding.Twins.refl_all _)⟩

end

end ModeSpec

/-- Drafts that agree except at some places, in the graph as in the notes. -/
structure Draft.AgreeExcept (places : List (String × String)) (d d' : Draft) : Prop where
  graph : d.graph.AgreeExcept places d'.graph
  notes : ∀ key, key ∉ places.map (fun p => Binding.key p.1 p.2) →
    d'.notes.find? key = d.notes.find? key

namespace Draft.AgreeExcept

variable {d d' e e' : Draft}

theorem bind {b b' : Binding} (h : d.AgreeExcept places d') (hb : b.Twins places b')
    (he : d.bind b = .ok e) (he' : d'.bind b' = .ok e') : e.AgreeExcept places e' := by
  obtain ⟨g, hg, he⟩ := bind_eq_ok_iff.1 he
  obtain ⟨g', hg', he'⟩ := bind_eq_ok_iff.1 he'
  cases he
  cases he'
  refine ⟨h.graph.apply (fun _ _ => hb.written?_eq) hb.relabeled?_eq hg hg', fun key hkey => ?_⟩
  cases hb with
  | same b =>
    cases b.note with
    | none => exact h.notes key hkey
    | some e => simp only [Table.find?_insert, h.notes key hkey]
  | @set node input v w hplace =>
    have hne : key ≠ node ++ "." ++ input := by
      rintro rfl
      exact hkey (List.mem_map_of_mem (f := fun p => Binding.key p.1 p.2) hplace)
    simp only [Binding.set, Table.find?_insert, if_neg hne, h.notes key hkey]

theorem bindAll {bs bs' : List Binding} (hbs : List.Forall₂ (Binding.Twins places) bs bs')
    (h : d.AgreeExcept places d') (he : d.bindAll bs = .ok e) (he' : d'.bindAll bs' = .ok e') :
    e.AgreeExcept places e' := by
  induction hbs generalizing d d' with
  | nil =>
    cases he
    cases he'
    exact h
  | cons hb _ ih =>
    rw [Draft.bindAll, List.foldlM_cons, bind_eq_ok_iff] at he he'
    obtain ⟨d₁, hd₁, he⟩ := he
    obtain ⟨d₁', hd₁', he'⟩ := he'
    exact ih (h.bind hb hd₁ hd₁') he he'

end Draft.AgreeExcept

/-- Two plans on one template that set the same inputs, some of them to other values. -/
structure Plan.Twins (places : List (String × String)) (p p' : Plan) : Prop where
  template : p'.template = p.template
  bindings : List.Forall₂ (Binding.Twins places) p.bindings p'.bindings

/-- Two jobs that agree except at some places, in the graph as in the notes. -/
structure Compiled.AgreeExcept (places : List (String × String)) (x x' : Compiled) : Prop where
  graph : x.graph.AgreeExcept places x'.graph
  notes : ∀ key, key ∉ places.map (fun p => Binding.key p.1 p.2) →
    x'.details.parametersUsed.find? key = x.details.parametersUsed.find? key

theorem Plan.Twins.compile {p p' : Plan} (h : p.Twins places p') {x x' : Compiled}
    (hx : p.compile = .ok x) (hx' : p'.compile = .ok x') : x.AgreeExcept places x' := by
  obtain ⟨d, hd, rfl⟩ := Plan.compile_eq_ok_iff.1 hx
  obtain ⟨d', hd', rfl⟩ := Plan.compile_eq_ok_iff.1 hx'
  rw [h.template] at hd'
  have hstart : Draft.AgreeExcept places { graph := p.template } { graph := p.template } :=
    ⟨.refl places p.template, fun _ _ => rfl⟩
  have hend := hstart.bindAll h.bindings hd hd'
  exact ⟨hend.graph, hend.notes⟩

end Renderflow
