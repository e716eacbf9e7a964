import Renderflow.Graph.Reach
import Renderflow.Proofs.Table
import Mathlib.Logic.Relation

/-!
# What a graph holds

The value of an input, the connection in it, and the label of a node, each by node id. Two
graphs that agree on these are wired alike.
-/

namespace Renderflow

theorem Node.input?_of (classType title : String) (inputs : List (String × Value))
    (name : String) : (Node.of classType title inputs).input? name = Table.last? name inputs :=
  Table.find?_ofList inputs name

theorem Node.input?_setInput (n : Node) (name i : String) (v : Value) :
    (n.setInput name v).input? i = if i = name then some v else n.input? i :=
  Table.find?_insert n.inputs name i v

/-- The class and the title of a node. -/
def Node.label (n : Node) : String × Option String := (n.classType, n.title)

theorem Node.mem_connections {n : Node} {i : String} {c : Connection} :
    (i, c) ∈ n.connections ↔ (n.input? i).bind Value.link? = some c := by
  simp only [connections, List.mem_filterMap, Option.map_eq_some_iff, Prod.mk.injEq, input?,
    Option.bind_eq_some_iff, Table.find?_eq_some_iff]
  constructor
  · rintro ⟨⟨k, v⟩, hmem, c', hc, rfl, rfl⟩
    exact ⟨v, hmem, hc⟩
  · rintro ⟨v, hmem, hc⟩
    exact ⟨(i, v), hmem, c, hc, rfl, rfl⟩

namespace Graph

def value? (g : Graph) (id name : String) : Option Value :=
  (g.find? id).bind (·.input? name)

/-- The connection that an input holds. -/
def link? (g : Graph) (id name : String) : Option Connection :=
  (g.value? id name).bind Value.link?

/-- The class and the title of the node of an id. -/
def label? (g : Graph) (id : String) : Option (String × Option String) :=
  (g.find? id).map Node.label

variable {g g' : Graph}

theorem contains_eq_isSome_label? (g : Graph) (id : String) :
    g.contains id = (g.label? id).isSome := by
  simp [Table.contains, label?]

theorem contains_of_value? {id name : String} {v : Value} (h : g.value? id name = some v) :
    g.contains id := by
  obtain ⟨n, hn, -⟩ := Option.bind_eq_some_iff.1 h
  exact Table.contains_iff.2 ⟨n, hn⟩

theorem value?_insert (g : Graph) (id id' name : String) (n : Node) :
    Graph.value? (g.insert id n) id' name =
      if id' = id then n.input? name else g.value? id' name := by
  by_cases h : id' = id <;> simp [value?, Table.find?_insert, h]

theorem label?_insert (g : Graph) (id id' : String) (n : Node) :
    Graph.label? (g.insert id n) id' = if id' = id then some n.label else g.label? id' := by
  by_cases h : id' = id <;> simp [label?, Table.find?_insert, h]

/-! ## Wiring -/

/-- A node takes an input from an output of another one. -/
def Feeds (g : Graph) (source id : String) : Prop :=
  source ∈ g.sources id

theorem feeds_iff {source id : String} :
    g.Feeds source id ↔ ∃ name c, g.link? id name = some c ∧ c.node = source := by
  unfold Feeds sources link? value?
  cases hn : g.find? id with
  | none => simp
  | some n => simp [← Node.mem_connections]

theorem dangling_eq_nil_iff :
    g.dangling = [] ↔ ∀ id name c, g.link? id name = some c → g.contains c.node := by
  simp only [dangling, List.flatMap_eq_nil_iff, List.map_eq_nil_iff, List.filter_eq_nil_iff,
    Bool.not_eq_true', Bool.not_eq_false]
  constructor
  · intro h id name c hc
    obtain ⟨v, hv, hl⟩ := Option.bind_eq_some_iff.1 hc
    obtain ⟨n, hn, hi⟩ := Option.bind_eq_some_iff.1 hv
    exact h (id, n) (Table.find?_eq_some_iff.1 hn) (name, c)
      (Node.mem_connections.2 (by rw [hi]; exact hl))
  · rintro h ⟨id, n⟩ hn ⟨name, c⟩ hc
    refine h id name c ?_
    have hfind : g.find? id = some n := Table.find?_eq_some_iff.2 hn
    simpa [link?, value?, hfind] using Node.mem_connections.1 hc

theorem refusal?_eq_none (h : g.dangling = []) : g.refusal? = none := by
  simp [refusal?, h]

/-- A graph is not cyclic if some rank grows along its connections. -/
theorem not_transGen_self_of_rank (rank : String → Nat)
    (hrank : ∀ source id, g.Feeds source id → rank source < rank id) (id : String) :
    ¬ Relation.TransGen g.Feeds id id := by
  intro h
  have hlt : ∀ source target, Relation.TransGen g.Feeds source target →
      rank source < rank target := by
    intro source target hpath
    induction hpath with
    | single hstep => exact hrank _ _ hstep
    | tail _ hstep ih => exact Nat.lt_trans ih (hrank _ _ hstep)
  exact Nat.lt_irrefl _ (hlt id id h)

/-- Two graphs with the same nodes and the same connections. -/
structure SameWiring (g g' : Graph) : Prop where
  contains : ∀ id, g'.contains id = g.contains id
  link? : ∀ id name, g'.link? id name = g.link? id name

theorem SameWiring.refl (g : Graph) : g.SameWiring g := ⟨fun _ => rfl, fun _ _ => rfl⟩

theorem SameWiring.trans {g'' : Graph} (h : g.SameWiring g') (h' : g'.SameWiring g'') :
    g.SameWiring g'' :=
  ⟨fun id => (h'.contains id).trans (h.contains id),
    fun id name => (h'.link? id name).trans (h.link? id name)⟩

theorem SameWiring.feeds (h : g.SameWiring g') : g'.Feeds = g.Feeds := by
  ext source id
  simp only [feeds_iff, h.link?]

/-- A graph that can be run: its nodes are the given ones, each connection leads to a node,
there is no cycle, and the given roles are upstream of the node that saves the result. -/
structure Wired (g : Graph) (nodes roles : List String) (save : String) : Prop where
  nodes : ∀ id, id ∈ g.keys ↔ id ∈ nodes
  dangling : g.dangling = []
  refusal? : g.refusal? = none
  acyclic : ∀ id, ¬ Relation.TransGen g.Feeds id id
  upstream : ∀ role ∈ roles, Relation.ReflTransGen g.Feeds role save

theorem Wired.congr {nodes roles : List String} {save : String}
    (h : g.Wired nodes roles save) (hw : g.SameWiring g') : g'.Wired nodes roles save := by
  have hdangling : g'.dangling = [] := by
    rw [dangling_eq_nil_iff]
    intro id name c hc
    rw [hw.link?] at hc
    rw [hw.contains]
    exact dangling_eq_nil_iff.1 h.dangling id name c hc
  refine ⟨fun id => ?_, hdangling, refusal?_eq_none hdangling, ?_, ?_⟩
  · rw [Table.mem_keys, hw.contains, ← Table.mem_keys]
    exact h.nodes id
  · rw [hw.feeds]
    exact h.acyclic
  · rw [hw.feeds]
    exact h.upstream

end Graph

end Renderflow
