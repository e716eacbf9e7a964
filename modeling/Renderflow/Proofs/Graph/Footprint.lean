import Renderflow.Proofs.Graph.Edit

/-!
# Footprints

The place that an edit writes, with the connections that it leaves there. Edits whose
footprints restate the connections of a graph and keep apart from each other are all
accepted, in any number, and leave the wiring as it is.
-/

namespace Renderflow

inductive Footprint where
  /-- One input, and the connection in it. -/
  | input (node name : String) (link : Option Connection)
  /-- A node with all its inputs, and the connections in them. -/
  | whole (node : String) (links : List (String × Connection))
  deriving DecidableEq

def Edit.footprint : Edit → Footprint
  | .setInput node input value | .insertInput node input value => .input node input value.link?
  | .connect node input source output => .input node input (some ⟨source, output⟩)
  | .replaceNode node n | .insertNode node n => .whole node n.connections

namespace Footprint

def node : Footprint → String
  | input node _ _ | whole node _ => node

/-- A footprint holds an input. -/
def Covers (f : Footprint) (id input : String) : Prop :=
  match f with
  | .input node name _ => id = node ∧ input = name
  | whole node _ => id = node

/-- A footprint holds a node with its label. -/
def CoversNode (f : Footprint) (id : String) : Prop :=
  match f with
  | input .. => False
  | whole node _ => id = node

/-- Two footprints have no input in common. -/
def Apart : Footprint → Footprint → Prop
  | input node name _, input node' name' _ => node ≠ node' ∨ name ≠ name'
  | f, f' => f.node ≠ f'.node

/-- The place is there and has the connections that an edit would leave. -/
def Fits (g : Graph) : Footprint → Prop
  | input node name link =>
    (∃ v, g.value? node name = some v) ∧ g.link? node name = link ∧ ∀ c ∈ link, g.contains c.node
  | whole node links =>
    g.contains node ∧ ∀ name c, g.link? node name = some c ↔ (name, c) ∈ links

theorem Apart.symm {f f' : Footprint} (h : f.Apart f') : f'.Apart f := by
  cases f <;> cases f' <;> simp_all [Apart, node, eq_comm]

theorem Covers.node {f : Footprint} {id input : String} (h : f.Covers id input) : f.node = id := by
  cases f with
  | input node name link => exact h.1.symm
  | whole node links => exact h.symm

theorem CoversNode.covers {f : Footprint} {id : String} (h : f.CoversNode id) (input : String) :
    f.Covers id input := by
  cases f with
  | input node name link => exact h.elim
  | whole node links => exact h

theorem Apart.not_covers {f f' : Footprint} (h : f.Apart f') {id input : String}
    (hf : f.Covers id input) : ¬ f'.Covers id input := by
  intro hf'
  have hnode : f.node = f'.node := hf.node.trans hf'.node.symm
  cases f with
  | whole node links => exact h hnode
  | input node name link =>
    cases f' with
    | whole node' links' => exact h hnode
    | input node' name' link' =>
      rcases h with h | h
      · exact h hnode
      · exact h (hf.2.symm.trans hf'.2)

end Footprint

namespace Edit

theorem written?_eq_none_iff {e : Edit} {id name : String} :
    e.written? id name = none ↔ ¬ e.footprint.Covers id name := by
  cases e <;> simp [written?, footprint, Footprint.Covers]

theorem relabeled?_eq_none_iff {e : Edit} {id : String} :
    e.relabeled? id = none ↔ ¬ e.footprint.CoversNode id := by
  cases e <;> simp [relabeled?, footprint, Footprint.CoversNode]

theorem accepted_of_fits {g : Graph} {e : Edit} (h : e.footprint.Fits g) : e.Accepted g := by
  cases e with
  | setInput node input value => exact h.1
  | insertInput node input value =>
    obtain ⟨v, hv⟩ := h.1
    exact Graph.contains_of_value? hv
  | connect node input source output =>
    obtain ⟨v, hv⟩ := h.1
    exact ⟨Graph.contains_of_value? hv, h.2.2 ⟨source, output⟩ rfl⟩
  | replaceNode node n => exact h.1
  | insertNode node n => trivial

/-- What an edit that fits leaves in an input has the connection that was there. -/
theorem link?_of_fits {g : Graph} {e : Edit} (h : e.footprint.Fits g) {id name : String}
    {v : Option Value} (hv : e.written? id name = some v) :
    v.bind Value.link? = g.link? id name := by
  have hwhole {node : String} {n : Node}
      (hlinks : ∀ name c, g.link? node name = some c ↔ (name, c) ∈ n.connections)
      (hw : (if id = node then some (n.input? name) else none) = some v) :
      v.bind Value.link? = g.link? id name := by
    obtain ⟨rfl, rfl⟩ := by simpa using hw
    ext c
    rw [← Node.mem_connections, hlinks]
  cases e with
  | setInput node input value | insertInput node input value =>
    obtain ⟨⟨rfl, rfl⟩, rfl⟩ := by simpa [written?] using hv
    exact h.2.1.symm
  | connect node input source output =>
    obtain ⟨⟨rfl, rfl⟩, rfl⟩ := by simpa [written?] using hv
    exact h.2.1.symm
  | replaceNode node n | insertNode node n => exact hwhole h.2 hv

end Edit

namespace Graph

variable {g g' : Graph}

/-- An edit that fits leaves the wiring as it is. -/
theorem SameWiring.apply {e : Edit} (hfit : e.footprint.Fits g) (h : g.apply e = .ok g') :
    g.SameWiring g' := by
  constructor
  · intro id
    rw [contains_eq_isSome_label?, label?_apply h, contains_eq_isSome_label?]
    cases hr : e.relabeled? id with
    | none => rfl
    | some l =>
      have hcontains : g.contains id := by
        cases e <;> simp [Edit.relabeled?] at hr <;> exact hr.1 ▸ hfit.1
      rw [contains_eq_isSome_label?] at hcontains
      simp [hcontains]
  · intro id name
    cases hw : e.written? id name with
    | none => rw [Graph.link?, value?_apply h, hw, Option.getD_none, ← Graph.link?]
    | some v => rw [Graph.link?, value?_apply h, hw, Option.getD_some, Edit.link?_of_fits hfit hw]

/-- A footprint fits still after an edit that keeps apart from it. -/
theorem fits_apply {e : Edit} (hfit : e.footprint.Fits g) (h : g.apply e = .ok g')
    {f : Footprint} (hf : f.Fits g) (hapart : e.footprint.Apart f) : f.Fits g' := by
  have hsame := SameWiring.apply hfit h
  cases f with
  | input node name link =>
    obtain ⟨⟨v, hv⟩, hlink, hcontains⟩ := hf
    have hout : e.written? node name = none :=
      Edit.written?_eq_none_iff.2 (hapart.symm.not_covers ⟨rfl, rfl⟩)
    refine ⟨⟨v, ?_⟩, ?_, fun c hc => ?_⟩
    · rw [value?_apply h, hout, Option.getD_none, hv]
    · rw [hsame.link?, hlink]
    · rw [hsame.contains]
      exact hcontains c hc
  | whole node links =>
    refine ⟨?_, fun name c => ?_⟩
    · rw [hsame.contains]
      exact hf.1
    · rw [hsame.link?]
      exact hf.2 name c

/-- Edits that fit and keep apart from each other are accepted and keep the wiring. -/
theorem exists_applyAll {es : List Edit} (hfit : ∀ e ∈ es, e.footprint.Fits g)
    (hapart : (es.map Edit.footprint).Pairwise Footprint.Apart) :
    ∃ g', g.applyAll es = .ok g' ∧ g.SameWiring g' := by
  induction es generalizing g with
  | nil => exact ⟨g, rfl, .refl g⟩
  | cons e es ih =>
    obtain ⟨hhead, htail⟩ := List.pairwise_cons.1 hapart
    have hfit_e := hfit e List.mem_cons_self
    obtain ⟨g₁, he⟩ := exists_apply_iff.2 (Edit.accepted_of_fits hfit_e)
    have hfit_es : ∀ d ∈ es, d.footprint.Fits g₁ := fun d hd =>
      fits_apply hfit_e he (hfit d (List.mem_cons_of_mem e hd))
        (hhead d.footprint (List.mem_map_of_mem hd))
    obtain ⟨g', hes, hsame⟩ := ih hfit_es htail
    exact ⟨g', applyAll_cons_eq_ok_iff.2 ⟨g₁, he, hes⟩, (SameWiring.apply hfit_e he).trans hsame⟩

/-- Of edits that keep apart from each other, each one's values stay. -/
theorem value?_applyAll_of_mem {es : List Edit} (h : g.applyAll es = .ok g')
    (hapart : (es.map Edit.footprint).Pairwise Footprint.Apart) {e : Edit} (he : e ∈ es)
    {id name : String} {v : Option Value} (hv : e.written? id name = some v) :
    g'.value? id name = v := by
  obtain ⟨before, after, rfl⟩ := List.append_of_mem he
  obtain ⟨g₁, -, hrest⟩ := applyAll_append_eq_ok_iff.1 h
  obtain ⟨g₂, hstep, hafter⟩ := applyAll_cons_eq_ok_iff.1 hrest
  rw [List.map_append, List.map_cons] at hapart
  have hcov : e.footprint.Covers id name := by
    by_contra hcov
    simp [Edit.written?_eq_none_iff.2 hcov] at hv
  have hapart_after := (List.pairwise_cons.1 (List.pairwise_append.1 hapart).2.1).1
  have hlater : ∀ d ∈ after, d.written? id name = none := by
    intro d hd
    rw [Edit.written?_eq_none_iff]
    exact (hapart_after d.footprint (List.mem_map_of_mem hd)).not_covers hcov
  rw [value?_applyAll hafter hlater, value?_apply hstep, hv, Option.getD_some]

end Graph

end Renderflow
