import Renderflow.Proofs.Job.Bindings
import Mathlib.Data.List.Perm.Subperm

/-!
# Compiling a plan

A plan whose bindings stay within a sound footprint compiles. Its graph has the wiring of the
graph it starts from, the bound values, and outside of the footprint what was there before.
-/

namespace Renderflow

theorem Draft.graph_bindAll (d : Draft) (bs : List Binding) :
    (d.bindAll bs).map (·.graph) = d.graph.applyAll (bs.map (·.edit)) := by
  induction bs generalizing d with
  | nil => rfl
  | cons b bs ih =>
    simp only [bindAll, List.foldlM_cons, bind, Graph.applyAll, List.map_cons] at ih ⊢
    cases d.graph.apply b.edit with
    | error e => rfl
    | ok g => exact ih _

/-- The notes of a run of bindings, the later ones over the earlier ones. -/
theorem Draft.notes_bindAll {d d' : Draft} {bs : List Binding} (h : d.bindAll bs = .ok d') :
    d'.notes = (bs.filterMap (·.note)).foldl (fun t e => t.insert e.1 e.2) d.notes := by
  induction bs generalizing d with
  | nil =>
    cases h
    rfl
  | cons b bs ih =>
    rw [bindAll, List.foldlM_cons, bind_eq_ok_iff] at h
    obtain ⟨d₁, hb, hbs⟩ := h
    obtain ⟨g, -, hd₁⟩ := bind_eq_ok_iff.1 hb
    cases hd₁
    rw [ih hbs]
    cases hnote : b.note <;> simp [hnote]

theorem Plan.compile_eq_ok_iff {p : Plan} {x : Compiled} :
    p.compile = .ok x ↔ ∃ d, Draft.bindAll { graph := p.template } p.bindings = .ok d ∧
      x = { graph := d.graph
            details := { p.details with parametersUsed := d.notes }
            message := p.message } := by
  unfold compile
  simp only [bind_eq_ok_iff, CompileError.graph_eq_ok_iff, Except.ok.injEq]
  constructor
  · rintro ⟨d, hd, rfl⟩
    exact ⟨d, hd, rfl⟩
  · rintro ⟨d, hd, rfl⟩
    exact ⟨d, hd, rfl⟩

theorem Plan.exists_compile {p : Plan} {g : Graph}
    (h : p.template.applyAll (p.bindings.map (·.edit)) = .ok g) :
    ∃ notes, p.compile = .ok
      { graph := g
        details := { p.details with parametersUsed := notes }
        message := p.message } := by
  have hdraft := Draft.graph_bindAll { graph := p.template } p.bindings
  rw [h] at hdraft
  cases hall : Draft.bindAll { graph := p.template } p.bindings with
  | error e => simp [hall, Except.map] at hdraft
  | ok d =>
    obtain rfl : d.graph = g := by simpa [hall, Except.map] using hdraft
    refine ⟨d.notes, ?_⟩
    simp only [compile, hall]
    rfl

theorem Plan.applyAll_of_compile {p : Plan} {x : Compiled} (h : p.compile = .ok x) :
    p.template.applyAll (p.bindings.map (·.edit)) = .ok x.graph := by
  obtain ⟨d, hd, rfl⟩ := Plan.compile_eq_ok_iff.1 h
  rw [← Draft.graph_bindAll { graph := p.template }, hd]
  rfl

/-- Two plans that differ in the value of the input that they set last. -/
theorem Plan.exists_compile_of_set_last {p p' : Plan} {bs : List Binding} {node input : String}
    {v w : Value} (hbindings : p.bindings = bs ++ [.set node input v])
    (htemplate : p'.template = p.template) (hbindings' : p'.bindings = bs ++ [.set node input w])
    {x : Compiled} (hx : p.compile = .ok x) :
    ∃ x', p'.compile = .ok x' ∧ x.graph.value? node input = some v ∧
      x.graph.setInput node input w = .ok x'.graph := by
  have hall := Plan.applyAll_of_compile hx
  rw [hbindings, List.map_append, Graph.applyAll_append_eq_ok_iff] at hall
  obtain ⟨g, hg, hlast⟩ := hall
  obtain ⟨_, hset, hnil⟩ := Graph.applyAll_cons_eq_ok_iff.1 hlast
  cases hnil
  obtain ⟨g', hset', hreset⟩ := Graph.exists_setInput hset w
  obtain ⟨notes, hcompile⟩ := Plan.exists_compile (p := p') (g := g') <| by
    rw [htemplate, hbindings', List.map_append, Graph.applyAll_append_eq_ok_iff]
    exact ⟨g, hg, Graph.applyAll_cons_eq_ok_iff.2 ⟨g', hset', Graph.applyAll_nil⟩⟩
  refine ⟨_, hcompile, ?_, hreset⟩
  rw [Graph.value?_apply (e := .setInput node input v) hset]
  simp [Edit.written?]

/-- What bindings within a footprint make of a graph. -/
structure Graph.Bound (base g : Graph) (fs : List Footprint) (bs : List Binding) : Prop where
  wiring : base.SameWiring g
  value? : ∀ id name, (∀ f ∈ fs, ¬ f.Covers id name) → g.value? id name = base.value? id name
  label? : ∀ id, (∀ f ∈ fs, ¬ f.CoversNode id) → g.label? id = base.label? id
  written : ∀ b ∈ bs, ∀ id name v, b.edit.written? id name = some v → g.value? id name = v

namespace Graph

variable {base g : Graph} {fs : List Footprint} {bs : List Binding}

theorem exists_bound (hfits : ∀ f ∈ fs, f.Fits base) (hapart : fs.Pairwise Footprint.Apart)
    (hfs : (footprints bs).Subperm fs) :
    ∃ g, base.applyAll (bs.map (·.edit)) = .ok g ∧ base.Bound g fs bs := by
  have hmem : ∀ b ∈ bs, b.edit.footprint ∈ fs := fun b hb =>
    List.Subperm.subset hfs (List.mem_map_of_mem hb)
  have hapartBs : ((bs.map (·.edit)).map Edit.footprint).Pairwise Footprint.Apart := by
    obtain ⟨l, hperm, hsub⟩ := hfs
    have hl := hapart.sublist hsub
    rw [hperm.pairwise_iff fun h => Footprint.Apart.symm h] at hl
    simpa [footprints, Function.comp_def] using hl
  have hfitsBs : ∀ e ∈ bs.map (·.edit), e.footprint.Fits base := by
    simpa using fun b hb => hfits _ (hmem b hb)
  obtain ⟨g, hg, hwiring⟩ := exists_applyAll hfitsBs hapartBs
  refine ⟨g, hg, hwiring, fun id name hout => ?_, fun id hout => ?_, fun b hb id name v hv => ?_⟩
  · refine value?_applyAll hg ?_
    simpa [Edit.written?_eq_none_iff] using fun b hb => hout _ (hmem b hb)
  · refine label?_applyAll hg ?_
    simpa [Edit.relabeled?_eq_none_iff] using fun b hb => hout _ (hmem b hb)
  · exact value?_applyAll_of_mem hg hapartBs (List.mem_map_of_mem hb) hv

theorem Bound.value?_of_binds (h : base.Bound g fs bs) {node input : String} {v : Value}
    (hv : Binds bs node input v) : g.value? node input = some v := by
  obtain ⟨b, hb, hw⟩ := hv
  exact h.written b hb node input (some v) hw

end Graph

end Renderflow
