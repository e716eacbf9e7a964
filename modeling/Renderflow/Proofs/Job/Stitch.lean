import Renderflow.Job.Edit
import Renderflow.Proofs.Graph.Layout

/-!
# Stitched layouts

The layout that a Flux edit of several images starts from: that of its template, with the
further load nodes, the nodes that stitch the images, and the result wired to the resizer.
-/

namespace Renderflow

namespace Layout

/-- Wires an input of a node, over what is in it. -/
def connect (l : Layout) (id name : String) (c : Connection) : Layout :=
  match l.node? id with
  | none => l
  | some n => l ++ [(id, { n with inputs := n.inputs ++ [(name, .link c)] })]

theorem node_append_inputs (n : NodeLayout) (name : String) (v : Value) :
    { n with inputs := n.inputs ++ [(name, v)] : NodeLayout }.node = n.node.setInput name v := by
  simp [NodeLayout.node, Node.of, Node.setInput, Table.ofList_concat]

theorem connect_graph {l : Layout} {id name : String} {c : Connection} (hid : (l.node? id).isSome)
    (hsource : (l.node? c.node).isSome) :
    l.graph.connect id name c.node c.output = .ok (l.connect id name c).graph := by
  obtain ⟨n, hn⟩ := Option.isSome_iff_exists.1 hid
  rw [Graph.connect_eq_ok_iff, contains_graph, Graph.insertInput_eq_ok_iff]
  refine ⟨hsource, n.node, by rw [find?_graph, hn]; rfl, ?_⟩
  simp only [connect, hn, graph_concat, node_append_inputs]

theorem value?_connect {l : Layout} {id name id' i : String} {c : Connection}
    (hout : ¬ (id' = id ∧ i = name)) : (l.connect id name c).value? id' i = l.value? id' i := by
  unfold connect
  cases hn : l.node? id with
  | none => rfl
  | some n =>
    simp only [value?, node?_concat]
    by_cases hid : id' = id
    · subst hid
      have hi : name ≠ i := fun h => hout ⟨rfl, h.symm⟩
      simp [hn, Table.last?, Table.last?_append, hi]
    · simp [hid]

theorem value?_connect_self {l : Layout} {id name : String} {c : Connection}
    (hid : (l.node? id).isSome) : (l.connect id name c).value? id name = some (.link c) := by
  obtain ⟨n, hn⟩ := Option.isSome_iff_exists.1 hid
  simp [connect, hn, value?, node?_concat, Table.last?_append, Table.last?]

theorem label?_connect (l : Layout) (id name id' : String) (c : Connection) :
    (l.connect id name c).graph.label? id' = l.graph.label? id' := by
  unfold connect
  cases hn : l.node? id with
  | none => rfl
  | some n =>
    simp only [label?_graph, node?_concat]
    by_cases hid : id' = id
    · subst hid
      simp [hn]
    · simp [hid]

theorem contains_connect (l : Layout) (id name id' : String) (c : Connection) :
    (l.connect id name c).graph.contains id' = l.graph.contains id' := by
  rw [Graph.contains_eq_isSome_label?, label?_connect, Graph.contains_eq_isSome_label?]

theorem applyAll_insertNode (l m : Layout) :
    l.graph.applyAll (m.map fun e => .insertNode e.1 e.2.node) = .ok (graph (l ++ m)) := by
  induction m generalizing l with
  | nil => simp [Graph.applyAll_nil]
  | cons e m ih =>
    rw [List.map_cons, Graph.applyAll_cons_eq_ok_iff]
    refine ⟨graph (l ++ [e]), ?_, ?_⟩
    · rw [graph_concat]
      rfl
    · rw [ih, List.append_assoc, List.singleton_append]

end Layout

namespace Stitch

/-- The further load nodes of a number of images. -/
def loaderLayouts (first : NodeLayout) (count : Nat) : Layout :=
  (List.range' 2 (count - 1)).map fun i =>
    (loaderName i, { first with title := "Load Source Image " ++ toString i })

theorem loaders_node (first : NodeLayout) (count : Nat) :
    loaders first.node count = (loaderLayouts first count).map fun e => (e.1, e.2.node) := by
  simp [loaders, loaderLayouts, NodeLayout.node, Node.of]

/-- The template of an edit with the nodes for a number of images. -/
def layout (l : Layout) (count : Nat) : Layout :=
  match l.node? "load_image_1" with
  | none => l
  | some first =>
    Layout.connect (l ++ loaderLayouts first count ++ nodes count) "image_resizer" "image"
      ⟨result count, 0⟩

/-- The ids of the nodes that are added for a number of images. -/
def added (count : Nat) : List String :=
  (List.range' 2 (count - 1)).map loaderName ++ (nodes count).map Prod.fst

/-- What the stitching writes: the nodes that it adds, and the image of the resizer. -/
def footprint (count : Nat) : List Footprint :=
  ((List.range' 2 (count - 1)).map fun i => .whole (loaderName i) []) ++
    ((nodes count).map fun e => .whole e.1 e.2.node.connections) ++
    [.input "image_resizer" "image" (some ⟨result count, 0⟩)]

/-- The record of a job does not tell about the stitching. -/
theorem note_bindings {first : Node} {count : Nat} : ∀ b ∈ bindings first count, b.note = none := by
  intro b hb
  simp only [bindings, List.mem_append, List.mem_map, List.mem_singleton] at hb
  rcases hb with (⟨e, -, rfl⟩ | ⟨e, -, rfl⟩) | rfl <;> rfl

theorem notMem_added {count : Nat} {id : String}
    (hout : ∀ f ∈ footprint count, ¬ f.CoversNode id) : id ∉ added count := by
  intro hid
  rcases List.mem_append.1 hid with hid | hid
  · obtain ⟨i, hi, rfl⟩ := List.mem_map.1 hid
    exact hout (.whole (loaderName i) [])
      (List.mem_append_left _ (List.mem_append_left _ (List.mem_map.2 ⟨i, hi, rfl⟩))) rfl
  · obtain ⟨e, he, rfl⟩ := List.mem_map.1 hid
    exact hout (.whole e.1 e.2.node.connections)
      (List.mem_append_left _ (List.mem_append_right _ (List.mem_map.2 ⟨e, he, rfl⟩))) rfl

/-- The bindings of the stitching make the stitched layout. -/
theorem applyAll_bindings {l : Layout} {count : Nat} {first : Node}
    (hfirst : l.graph.find? "load_image_1" = some first)
    (hresizer : (layout l count).graph.contains "image_resizer")
    (hresult : (layout l count).graph.contains (result count)) :
    l.graph.applyAll ((bindings first count).map (·.edit)) = .ok (layout l count).graph := by
  obtain ⟨n, hn, rfl⟩ := Option.map_eq_some_iff.1 ((Layout.find?_graph l _).symm.trans hfirst)
  have hlayout : layout l count =
      Layout.connect (l ++ loaderLayouts n count ++ nodes count) "image_resizer" "image"
        ⟨result count, 0⟩ := by
    simp only [layout, hn]
  rw [hlayout, Layout.contains_connect] at hresizer hresult
  simp only [bindings, loaders_node, List.map_append, List.map_map]
  rw [Graph.applyAll_append_eq_ok_iff]
  refine ⟨Layout.graph (l ++ loaderLayouts n count ++ nodes count), ?_, ?_⟩
  · rw [List.append_assoc, ← Layout.applyAll_insertNode, List.map_append]
    rfl
  · rw [hlayout, List.map_singleton, Graph.applyAll_cons_eq_ok_iff]
    refine ⟨_, ?_, Graph.applyAll_nil⟩
    rw [Layout.contains_graph] at hresizer hresult
    exact Layout.connect_graph (c := ⟨result count, 0⟩) hresizer hresult

theorem map_fst_loaderLayouts (first : NodeLayout) (count : Nat) :
    (loaderLayouts first count).map Prod.fst = (List.range' 2 (count - 1)).map loaderName := by
  simp [loaderLayouts, Function.comp_def]

/-- The stitched layout has the values of the template, but for what the stitching writes. -/
theorem value?_layout {l : Layout} {count : Nat} {id name : String}
    (hout : ∀ f ∈ footprint count, ¬ f.Covers id name) :
    (layout l count).graph.value? id name = l.graph.value? id name := by
  rw [Layout.value?_graph, Layout.value?_graph]
  unfold layout
  cases hn : l.node? "load_image_1" with
  | none => rfl
  | some first =>
    have hadded : id ∉ added count := notMem_added fun f hf hnode =>
      hout f hf (hnode.covers name)
    have hnotMem : id ∉ (loaderLayouts first count ++ nodes count).map Prod.fst := by
      rwa [List.map_append, map_fst_loaderLayouts]
    have hresizer : ¬ (id = "image_resizer" ∧ name = "image") :=
      hout (.input "image_resizer" "image" (some ⟨result count, 0⟩)) (by simp [footprint])
    rw [Layout.value?_connect hresizer, Layout.value?, List.append_assoc,
      Layout.node?_append_of_notMem hnotMem, ← Layout.value?]

theorem label?_layout {l : Layout} {count : Nat} {id : String}
    (hout : ∀ f ∈ footprint count, ¬ f.CoversNode id) :
    (layout l count).graph.label? id = l.graph.label? id := by
  unfold layout
  cases hn : l.node? "load_image_1" with
  | none => rfl
  | some first =>
    have hnotMem : id ∉ (loaderLayouts first count ++ nodes count).map Prod.fst := by
      rw [List.map_append, map_fst_loaderLayouts]
      exact notMem_added hout
    rw [Layout.label?_connect, Layout.label?_graph, List.append_assoc,
      Layout.node?_append_of_notMem hnotMem, ← Layout.label?_graph]

/-- A further load node has the inputs of the first one. -/
theorem value?_layout_loader {l : Layout} {count i : Nat} {first : NodeLayout}
    (hfirst : l.node? "load_image_1" = some first) (hi : i ∈ List.range' 2 (count - 1))
    (hnodes : loaderName i ∉ (nodes count).map Prod.fst) (hresizer : loaderName i ≠ "image_resizer")
    (name : String) :
    (layout l count).value? (loaderName i) name = Table.last? name first.inputs := by
  obtain ⟨n, hn⟩ : ∃ n, Layout.node? (loaderLayouts first count) (loaderName i) = some n :=
    Table.exists_last?_of_mem (List.mem_map.2 ⟨i, hi, rfl⟩)
  have hinputs : n.inputs = first.inputs := by
    obtain ⟨j, -, hj⟩ := List.mem_map.1 (Table.mem_of_last? hn)
    rw [← (Prod.mk.inj hj).2]
  simp only [layout, hfirst]
  rw [Layout.value?_connect fun h => hresizer h.1, Layout.value?,
    Layout.node?_append_of_notMem hnodes, Layout.node?_append, hn, Option.some_or,
    Option.bind_some, hinputs]

/-- The resizer takes the result of the stitching. -/
theorem value?_layout_resizer {l : Layout} {count : Nat} {first : NodeLayout}
    (hfirst : l.node? "load_image_1" = some first)
    (hresizer : ((layout l count).node? "image_resizer").isSome) :
    (layout l count).value? "image_resizer" "image" = some (.link ⟨result count, 0⟩) := by
  have hcontains := Layout.contains_graph (layout l count) "image_resizer"
  simp only [layout, hfirst] at hcontains hresizer ⊢
  rw [Layout.contains_connect, Layout.contains_graph, hresizer] at hcontains
  exact Layout.value?_connect_self hcontains

end Stitch

end Renderflow
