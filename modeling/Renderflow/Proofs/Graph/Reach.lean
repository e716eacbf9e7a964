import Renderflow.Proofs.Graph.Values
import Mathlib

/-!
# The nodes upstream of a node

A walk upstream of a node finds what can be reached from it, in whatever order it takes the inputs
of each node. It ends because every node is visited once, and it may pass by a visited node because
the sources of that node are visited or still to come.
-/

namespace Renderflow

/-- The nodes that the connections among some inputs lead to, in the order of the inputs. -/
def Value.targets (inputs : List (String × Value)) : List String :=
  inputs.filterMap fun e => e.2.link?.map Connection.node

namespace Graph

/-- A node takes an input from another node of the graph. -/
def Draws (g : Graph) (id source : String) : Prop :=
  g.contains source ∧ ∃ name c, g.link? id name = some c ∧ c.node = source

/-- A node is reached from another one by any number of connections, through nodes of the graph. -/
def Upstream (g : Graph) (id source : String) : Prop :=
  g.contains id ∧ Relation.ReflTransGen g.Draws id source

/-- Lists the inputs of each node, in some order. -/
def Lists (g : Graph) (inputs : String → List (String × Value)) : Prop :=
  ∀ id n, g.find? id = some n → (inputs id).Perm n.inputs.entries

variable {g : Graph} {sources : String → List String} {todo seen : List String}
  {id source : String}

/-! ## The recursion of a walk -/

theorem visit_of_fresh (h : g.contains id ∧ id ∉ seen) :
    g.visit sources (id :: todo) seen = g.visit sources (sources id ++ todo) (id :: seen) := by
  rw [visit, if_pos h]

theorem visit_of_not_fresh (h : ¬ (g.contains id ∧ id ∉ seen)) :
    g.visit sources (id :: todo) seen = g.visit sources todo seen := by
  rw [visit, if_neg h]

theorem visit_append (rest : List String) :
    g.visit sources (todo ++ rest) seen = g.visit sources rest (g.visit sources todo seen) := by
  fun_induction g.visit sources todo seen with
  | case1 seen => rfl
  | case2 seen id todo fresh ih =>
    rw [List.cons_append, visit_of_fresh fresh, ← ih, List.append_assoc]
  | case3 seen id todo fresh ih => rw [List.cons_append, visit_of_not_fresh fresh, ih]

/-- A node that is new is visited with all that is upstream of it before the walk goes on. -/
theorem visit_cons :
    g.visit sources (id :: todo) seen =
      g.visit sources todo (if g.contains id ∧ id ∉ seen
        then g.visit sources (sources id) (id :: seen) else seen) := by
  by_cases fresh : g.contains id ∧ id ∉ seen
  · rw [visit_of_fresh fresh, if_pos fresh, visit_append]
  · rw [visit_of_not_fresh fresh, if_neg fresh]

theorem subset_visit : seen ⊆ g.visit sources todo seen := by
  fun_induction g.visit sources todo seen with
  | case1 seen => exact List.Subset.refl seen
  | case2 seen id todo fresh ih => exact List.Subset.trans (List.subset_cons_self id seen) ih
  | case3 seen id todo fresh ih => exact ih

theorem nodup_visit (h : seen.Nodup) : (g.visit sources todo seen).Nodup := by
  fun_induction g.visit sources todo seen with
  | case1 seen => exact h
  | case2 seen id todo fresh ih => exact ih (List.nodup_cons.2 ⟨fresh.2, h⟩)
  | case3 seen id todo fresh ih => exact ih h

theorem mem_visit_of_mem (h : id ∈ todo) (hid : g.contains id) :
    id ∈ g.visit sources todo seen := by
  fun_induction g.visit sources todo seen with
  | case1 seen => cases h
  | case2 seen first todo fresh ih =>
    rcases List.mem_cons.1 h with rfl | h
    · exact subset_visit List.mem_cons_self
    · exact ih (List.mem_append_right _ h)
  | case3 seen first todo fresh ih =>
    rcases List.mem_cons.1 h with rfl | h
    · have hseen : id ∈ seen := by_contra fun hnot => fresh ⟨hid, hnot⟩
      exact subset_visit hseen
    · exact ih h

/-! ## What a walk finds -/

/-- The sources of each node that the graph has. -/
def Supplies (g : Graph) (sources : String → List String) : Prop :=
  ∀ id, g.contains id → ∀ source, g.contains source → (source ∈ sources id ↔ g.Draws id source)

/-- What a visited node draws from is visited, or waits to be. -/
def Settled (g : Graph) (seen todo : List String) : Prop :=
  ∀ id ∈ seen, ∀ source, g.Draws id source → source ∈ seen ∨ source ∈ todo

theorem Upstream.contains (h : g.Upstream id source) : g.contains source := by
  rcases h.2.cases_tail with rfl | ⟨_, _, hdraws⟩
  · exact h.1
  · exact hdraws.1

/-- A walk leaves no source of a visited node behind. -/
theorem settled_visit (hsources : g.Supplies sources) (h : g.Settled seen todo) :
    g.Settled (g.visit sources todo seen) [] := by
  fun_induction g.visit sources todo seen with
  | case1 seen => exact h
  | case2 seen id todo fresh ih =>
    apply ih
    intro x hx source hdraws
    rcases List.mem_cons.1 hx with rfl | hx
    · exact .inr (List.mem_append_left _ ((hsources x fresh.1 source hdraws.1).2 hdraws))
    · rcases h x hx source hdraws with hseen | htodo
      · exact .inl (List.mem_cons_of_mem id hseen)
      · rcases List.mem_cons.1 htodo with rfl | htodo
        · exact .inl List.mem_cons_self
        · exact .inr (List.mem_append_right _ htodo)
  | case3 seen id todo fresh ih =>
    apply ih
    intro x hx source hdraws
    rcases h x hx source hdraws with hseen | htodo
    · exact .inl hseen
    · rcases List.mem_cons.1 htodo with rfl | htodo
      -- The walk passes by a source only if it has been there.
      · exact .inl (by_contra fun hnot => fresh ⟨hdraws.1, hnot⟩)
      · exact .inr htodo

/-- A walk visits only what is upstream of the nodes that it starts from. -/
theorem exists_upstream_of_mem_visit (hsources : g.Supplies sources) {x : String}
    (h : x ∈ g.visit sources todo seen) : x ∈ seen ∨ ∃ id ∈ todo, g.Upstream id x := by
  fun_induction g.visit sources todo seen with
  | case1 seen => exact .inl h
  | case2 seen id todo fresh ih =>
    have hself : g.Upstream id id := ⟨fresh.1, .refl⟩
    rcases ih h with hx | ⟨source, hsource, hx⟩
    · rcases List.mem_cons.1 hx with rfl | hx
      · exact .inr ⟨x, List.mem_cons_self, hself⟩
      · exact .inl hx
    · rcases List.mem_append.1 hsource with hsource | hsource
      · have hdraws : g.Draws id source := (hsources id fresh.1 source hx.1).1 hsource
        exact .inr ⟨id, List.mem_cons_self, fresh.1, .head hdraws hx.2⟩
      · exact .inr ⟨source, List.mem_cons_of_mem id hsource, hx⟩
  | case3 seen id todo fresh ih =>
    exact (ih h).imp_right fun ⟨source, hsource, hx⟩ =>
      ⟨source, List.mem_cons_of_mem id hsource, hx⟩

/-- A walk from a node visits what is upstream of it. -/
theorem mem_visit_iff (hsources : g.Supplies sources) {x : String} :
    x ∈ g.visit sources [id] [] ↔ g.Upstream id x := by
  constructor
  · intro h
    rcases exists_upstream_of_mem_visit hsources h with hx | ⟨id', hid', hx⟩
    · cases hx
    · obtain rfl := List.mem_singleton.1 hid'
      exact hx
  · rintro ⟨hid, hpath⟩
    have hsettled : g.Settled (g.visit sources [id] []) [] := by
      apply settled_visit hsources
      intro x hx
      cases hx
    induction hpath with
    | refl => exact mem_visit_of_mem List.mem_cons_self hid
    | tail _ hdraws ih => exact (hsettled _ ih _ hdraws).resolve_right List.not_mem_nil

/-! ## The order of the inputs -/

theorem Lists.supplies {inputs : String → List (String × Value)} (h : g.Lists inputs) :
    g.Supplies fun id => Value.targets (inputs id) := by
  intro id hid source hsource
  obtain ⟨n, hn⟩ := Table.contains_iff.1 hid
  have hlink : ∀ name c, g.link? id name = some c ↔
      ∃ v, (name, v) ∈ inputs id ∧ v.link? = some c := by
    intro name c
    simp only [link?, value?, hn, Option.bind_some, Option.bind_eq_some_iff, Node.input?,
      Table.find?_eq_some_iff, (h id n hn).mem_iff]
  simp only [Draws, hsource, true_and, Value.targets, List.mem_filterMap, Option.map_eq_some_iff,
    hlink]
  constructor
  · rintro ⟨⟨name, v⟩, hv, c, hc, hnode⟩
    exact ⟨name, c, ⟨v, hv, hc⟩, hnode⟩
  · rintro ⟨name, c, ⟨v, hv, hc⟩, hnode⟩
    exact ⟨(name, v), hv, c, hc, hnode⟩

theorem supplies_sources (g : Graph) : g.Supplies g.sources := by
  intro id hid source hsource
  simp only [Draws, hsource, true_and]
  exact feeds_iff

/-- The nodes upstream of a node, whatever the order in which the inputs of each node are taken. -/
theorem dependencies_upstream (g : Graph) (id : String) (inputs : String → List (String × Value))
    (h : g.Lists inputs) :
    let walk := g.visit fun id => Value.targets (inputs id)
    (∀ first todo seen, walk (first :: todo) seen = walk todo
      (if g.contains first ∧ first ∉ seen then walk (Value.targets (inputs first)) (first :: seen)
      else seen)) ∧
    (∀ x, x ∈ walk [id] [] ↔ g.Upstream id x) ∧ (walk [id] []).Nodup ∧
    (∀ x, x ∈ g.dependencies id ↔ g.Upstream id x) ∧ (g.dependencies id).Pairwise (· < ·) ∧
    (g.contains id = false → walk [id] [] = [] ∧ g.dependencies id = []) := by
  intro walk
  have hwalk : ∀ x, x ∈ walk [id] [] ↔ g.Upstream id x := fun x => mem_visit_iff h.supplies
  have hdependencies : ∀ x, x ∈ g.dependencies id ↔ g.Upstream id x := by
    intro x
    simp only [dependencies, List.mem_filter, List.contains_iff_mem, Table.mem_keys,
      mem_visit_iff g.supplies_sources]
    exact and_iff_right_of_imp Upstream.contains
  have hordered : (g.dependencies id).Pairwise (· < ·) :=
    List.Pairwise.filter _ (List.pairwise_map.2 g.ordered)
  refine ⟨fun first todo seen => visit_cons, hwalk, nodup_visit List.nodup_nil, hdependencies,
    hordered, fun habsent => ?_⟩
  have hnone : ∀ x, ¬ g.Upstream id x := fun x hx => by simp [hx.1] at habsent
  exact ⟨List.eq_nil_iff_forall_not_mem.2 fun x hx => hnone x ((hwalk x).1 hx),
    List.eq_nil_iff_forall_not_mem.2 fun x hx => hnone x ((hdependencies x).1 hx)⟩

/-- The inputs of each node from the last one to the first. -/
def reversedInputs (g : Graph) (id : String) : List (String × Value) :=
  match g.find? id with
  | none => []
  | some n => n.inputs.entries.reverse

theorem lists_reversedInputs (g : Graph) : g.Lists g.reversedInputs := by
  intro id n hn
  rw [reversedInputs, hn]
  exact List.reverse_perm _

/-- A graph with a loop, a circle, a connection to no node and a node that two others draw from. -/
def looped : Graph :=
  .ofList
    [("a", .of "Switch" "Switch" [("again", .link ⟨"a", 0⟩), ("model", .link ⟨"b", 1⟩)]),
      ("b", .of "Merge" "Merge"
        [("back", .link ⟨"a", 0⟩), ("lost", .link ⟨"z", 0⟩), ("model", .link ⟨"c", 0⟩)]),
      ("c", .of "Loader" "Loader" [("name", .str "c")]),
      ("d", .of "Save" "Save" [("image", .link ⟨"c", 0⟩)])]

theorem dependencies_upstream_looped :
    looped.Lists looped.reversedInputs ∧
      looped.visit (fun id => Value.targets (looped.reversedInputs id)) ["a"] [] = ["c", "b", "a"] ∧
      looped.dependencies "a" = ["a", "b", "c"] ∧
      ∀ x, x ∈ ["c", "b", "a"] ↔ looped.Upstream "a" x := by
  have hwalk : looped.visit (fun id => Value.targets (looped.reversedInputs id)) ["a"] [] =
      ["c", "b", "a"] := by cbv
  obtain ⟨-, hmem, -⟩ :=
    dependencies_upstream looped "a" looped.reversedInputs (lists_reversedInputs looped)
  refine ⟨lists_reversedInputs looped, hwalk, by cbv, fun x => ?_⟩
  rw [← hwalk]
  exact hmem x

end Graph

end Renderflow
