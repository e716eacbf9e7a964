import Renderflow.Graph.Basic
import Renderflow.Proofs.Graph.Footprint

/-!
# Checks of layouts

What a graph holds is read off its layout, and so is whether a footprint fits and whether
the graph is wired. Texts are compared as numbers here, so that the checks run in proofs.
-/

namespace Renderflow

theorem NodeLayout.input?_node (n : NodeLayout) (name : String) :
    n.node.input? name = Table.last? name n.inputs :=
  Node.input?_of n.classType n.title n.inputs name

namespace Layout

/-- The node of an id. -/
def node? (l : Layout) (id : String) : Option NodeLayout :=
  Table.last? id l

def value? (l : Layout) (id name : String) : Option Value :=
  (l.node? id).bind fun n => Table.last? name n.inputs

theorem find?_graph (l : Layout) (id : String) : l.graph.find? id = (l.node? id).map (·.node) := by
  unfold graph node?
  rw [Table.find?_ofList, Table.last?_map]

theorem value?_graph (l : Layout) (id name : String) :
    l.graph.value? id name = l.value? id name := by
  unfold Graph.value? value?
  rw [find?_graph]
  cases l.node? id with
  | none => rfl
  | some n => exact n.input?_node name

theorem contains_graph (l : Layout) (id : String) : l.graph.contains id = (l.node? id).isSome := by
  simp [Table.contains, find?_graph]

theorem label?_graph (l : Layout) (id : String) :
    l.graph.label? id = (l.node? id).map fun n => (n.classType, some n.title) := by
  simp [Graph.label?, find?_graph, Function.comp_def, Node.label, NodeLayout.node, Node.of]

theorem graph_concat (l : Layout) (id : String) (n : NodeLayout) :
    graph (l ++ [(id, n)]) = l.graph.insert id n.node := by
  simp [graph, Table.ofList_concat]

theorem node?_append (l m : Layout) (id : String) :
    node? (l ++ m) id = (m.node? id).or (l.node? id) :=
  Table.last?_append id l m

theorem link?_graph (l : Layout) (id name : String) :
    l.graph.link? id name = (l.value? id name).bind Value.link? := by
  rw [Graph.link?, value?_graph]

theorem node?_concat (l : Layout) (id id' : String) (n : NodeLayout) :
    node? (l ++ [(id, n)]) id' = if id' = id then some n else l.node? id' := by
  rw [node?_append]
  by_cases h : id' = id
  · simp [node?, Table.last?, h]
  · simp [node?, Table.last?, h, Ne.symm h]

theorem node?_append_of_notMem {l m : Layout} {id : String} (h : id ∉ m.map Prod.fst) :
    node? (l ++ m) id = l.node? id := by
  rw [node?_append]
  cases hm : m.node? id with
  | none => rfl
  | some n => exact absurd (List.mem_map_of_mem (Table.mem_of_last? hm)) h

section

attribute [local instance] Text.decideEq

/-- The nodes that a node takes its connected inputs from. -/
def sources (l : Layout) (id : String) : List String :=
  match l.node? id with
  | none => []
  | some n => n.inputs.filterMap fun e =>
      ((Table.last? e.1 n.inputs).bind Value.link?).map Connection.node

/-- A node and those upstream of it, along paths of a bounded length. -/
def upstream (l : Layout) : Nat → String → List String
  | 0, id => [id]
  | fuel + 1, id => id :: (l.sources id).flatMap (l.upstream fuel)

/-- Checks that a footprint fits the graph of a layout. -/
def fits (l : Layout) : Footprint → Bool
  | .input node name link =>
    match l.value? node name with
    | none => false
    | some v => v.link? = link && link.all fun c => (l.node? c.node).isSome
  | .whole node links =>
    match l.node? node with
    | none => false
    | some n => links.isEmpty && n.inputs.all fun e => e.2.link?.isNone

/-- Checks that the graph of a layout is wired. Along a connection there are ever more paths
from upstream, which tells that there is no cycle. -/
def wired (l : Layout) (nodes roles : List String) (save : String) : Bool :=
  l.all (fun e => e.1 ∈ nodes) && nodes.all (fun id => (l.node? id).isSome) &&
    nodes.all (fun id => (l.sources id).all fun source => source ∈ nodes &&
      (l.upstream nodes.length source).length < (l.upstream nodes.length id).length) &&
    roles.all fun role => role ∈ l.upstream nodes.length save

end

theorem feeds_graph_iff {l : Layout} {source id : String} :
    l.graph.Feeds source id ↔ source ∈ l.sources id := by
  simp only [Graph.feeds_iff, link?_graph, value?, sources]
  cases l.node? id with
  | none => simp
  | some n =>
    simp only [Option.bind_some, List.mem_filterMap, Option.map_eq_some_iff]
    constructor
    · rintro ⟨name, c, hc, hsource⟩
      obtain ⟨v, hv, -⟩ := Option.bind_eq_some_iff.1 hc
      exact ⟨(name, v), Table.mem_of_last? hv, c, hc, hsource⟩
    · rintro ⟨e, -, c, hc, hsource⟩
      exact ⟨e.1, c, hc, hsource⟩

theorem reflTransGen_of_mem_upstream {l : Layout} {fuel : Nat} {role id : String}
    (h : role ∈ l.upstream fuel id) : Relation.ReflTransGen l.graph.Feeds role id := by
  induction fuel generalizing id with
  | zero =>
    obtain rfl : role = id := by simpa [upstream] using h
    exact .refl
  | succ fuel ih =>
    rw [upstream, List.mem_cons, List.mem_flatMap] at h
    rcases h with rfl | ⟨source, hsource, hrole⟩
    · exact .refl
    · exact (ih hrole).tail (feeds_graph_iff.2 hsource)

theorem fits_graph {l : Layout} {f : Footprint} (h : l.fits f) : f.Fits l.graph := by
  cases f with
  | input node name link =>
    simp only [fits] at h
    cases hv : l.value? node name with
    | none => simp [hv] at h
    | some v =>
      obtain ⟨hlink, hcontains⟩ := by simpa [hv] using h
      refine ⟨⟨v, by rw [value?_graph, hv]⟩, by rw [link?_graph, hv, Option.bind_some, hlink], ?_⟩
      intro c hc
      rw [contains_graph]
      rw [Option.mem_def.1 hc] at hcontains
      simpa using hcontains
  | whole node links =>
    simp only [fits] at h
    cases hn : l.node? node with
    | none => simp [hn] at h
    | some n =>
      obtain ⟨rfl, hnone⟩ := by simpa [hn] using h
      refine ⟨by rw [contains_graph, hn]; rfl, fun name c => ?_⟩
      simp only [link?_graph, value?, hn, Option.bind_some, List.not_mem_nil, iff_false]
      intro hc
      obtain ⟨v, hv, hlink⟩ := Option.bind_eq_some_iff.1 hc
      simp [hnone name v (Table.mem_of_last? hv)] at hlink

theorem wired_graph {l : Layout} {nodes roles : List String} {save : String}
    (h : l.wired nodes roles save) : l.graph.Wired nodes roles save := by
  simp only [wired, Bool.and_eq_true, List.all_eq_true, decide_eq_true_eq] at h
  obtain ⟨⟨⟨hids, hnodes⟩, hsources⟩, hroles⟩ := h
  have hmem : ∀ id, l.graph.contains id ↔ id ∈ nodes := by
    intro id
    rw [contains_graph]
    refine ⟨fun hid => ?_, hnodes id⟩
    obtain ⟨n, hn⟩ := Option.isSome_iff_exists.1 hid
    exact hids (id, n) (Table.mem_of_last? hn)
  have hfeeds : ∀ source id, l.graph.Feeds source id → source ∈ nodes ∧
      (l.upstream nodes.length source).length < (l.upstream nodes.length id).length := by
    intro source id hfeed
    obtain ⟨name, c, hc, -⟩ := Graph.feeds_iff.1 hfeed
    obtain ⟨v, hv, -⟩ := Option.bind_eq_some_iff.1 hc
    exact hsources id ((hmem id).1 (Graph.contains_of_value? hv)) source (feeds_graph_iff.1 hfeed)
  have hdangling : l.graph.dangling = [] := by
    rw [Graph.dangling_eq_nil_iff]
    intro id name c hc
    exact (hmem c.node).2 (hfeeds c.node id (Graph.feeds_iff.2 ⟨name, c, hc, rfl⟩)).1
  refine ⟨fun id => Table.mem_keys.trans (hmem id), hdangling, Graph.refusal?_eq_none hdangling,
    ?_, fun role hrole => reflTransGen_of_mem_upstream (hroles role hrole)⟩
  exact Graph.not_transGen_self_of_rank _ fun source id hfeed => (hfeeds source id hfeed).2

end Layout

end Renderflow
