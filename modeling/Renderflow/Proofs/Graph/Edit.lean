import Renderflow.Graph.Edit
import Renderflow.Proofs.Graph.Values

/-!
# What an edit changes

An edit writes one input or one node and leaves everything else as it was. A run of edits
changes what one of them writes.
-/

namespace Renderflow

namespace Edit

/-- What an edit leaves in an input, if it writes there. -/
def written? (e : Edit) (id name : String) : Option (Option Value) :=
  match e with
  | setInput node input value | insertInput node input value =>
    if id = node ∧ name = input then some (some value) else none
  | connect node input source output =>
    if id = node ∧ name = input then some (some (.link ⟨source, output⟩)) else none
  | replaceNode node n | insertNode node n => if id = node then some (n.input? name) else none

/-- The label that an edit gives to a node, if it puts a node there. -/
def relabeled? (e : Edit) (id : String) : Option (String × Option String) :=
  match e with
  | replaceNode node n | insertNode node n => if id = node then some n.label else none
  | _ => none

/-- What an edit needs of a graph. -/
def Accepted (g : Graph) : Edit → Prop
  | setInput node input _ => ∃ v, g.value? node input = some v
  | insertInput node _ _ => g.contains node
  | connect node _ source _ => g.contains node ∧ g.contains source
  | replaceNode node _ => g.contains node
  | insertNode .. => True

end Edit

namespace Graph

variable {g g' : Graph}

theorem node_eq_ok_iff {id : String} {n : Node} : g.node id = .ok n ↔ g.find? id = some n := by
  unfold node
  cases g.find? id <;> simp

/-- An input that is written keeps the label of its node. -/
theorem insert_setInput {id : String} {n : Node} (hn : g.find? id = some n) (name : String)
    (v : Value) :
    (∀ id' i, Graph.value? (g.insert id (n.setInput name v)) id' i =
      if id' = id ∧ i = name then some v else g.value? id' i) ∧
    ∀ id', Graph.label? (g.insert id (n.setInput name v)) id' = g.label? id' := by
  constructor
  · intro id' i
    rw [value?_insert, Node.input?_setInput]
    by_cases hid : id' = id
    · subst hid
      by_cases hi : i = name <;> simp [hi, value?, hn]
    · simp [hid]
  · intro id'
    rw [label?_insert]
    by_cases hid : id' = id
    · subst hid
      simp [label?, hn, Node.label, Node.setInput]
    · simp [hid]

theorem insertInput_eq_ok_iff {id name : String} {v : Value} :
    g.insertInput id name v = .ok g' ↔
      ∃ n, g.find? id = some n ∧ g' = g.insert id (n.setInput name v) := by
  unfold insertInput node
  cases g.find? id <;> simp [bind, Except.bind, eq_comm]

theorem setInput_eq_ok_iff {id name : String} {v : Value} :
    g.setInput id name v = .ok g' ↔
      (∃ w, g.value? id name = some w) ∧ g.insertInput id name v = .ok g' := by
  rw [insertInput_eq_ok_iff]
  unfold setInput node value?
  cases hn : g.find? id with
  | none => simp [bind, Except.bind]
  | some n => cases hi : n.input? name <;> simp [bind, Except.bind, hi, eq_comm]

theorem connect_eq_ok_iff {id name source : String} {output : UInt32} :
    g.connect id name source output = .ok g' ↔
      g.contains source ∧ g.insertInput id name (.link ⟨source, output⟩) = .ok g' := by
  unfold connect node Table.contains
  cases g.find? source <;> simp [bind, Except.bind]

theorem replaceNode_eq_ok_iff {id : String} {n : Node} :
    g.replaceNode id n = .ok g' ↔ g.contains id ∧ g' = g.insert id n := by
  unfold replaceNode node Table.contains
  cases g.find? id <;> simp [bind, Except.bind, eq_comm]

theorem exists_insertInput_iff {id name : String} {v : Value} :
    (∃ g', g.insertInput id name v = .ok g') ↔ g.contains id := by
  simp only [insertInput_eq_ok_iff, Table.contains_iff]
  constructor
  · rintro ⟨g', n, hn, -⟩
    exact ⟨n, hn⟩
  · rintro ⟨n, hn⟩
    exact ⟨_, n, hn, rfl⟩

theorem exists_apply_iff {e : Edit} : (∃ g', g.apply e = .ok g') ↔ e.Accepted g := by
  cases e with
  | setInput node input value =>
    simp only [apply, setInput_eq_ok_iff, Edit.Accepted, exists_and_left, exists_insertInput_iff,
      and_iff_left_iff_imp]
    rintro ⟨v, hv⟩
    exact contains_of_value? hv
  | insertInput node input value => exact exists_insertInput_iff
  | connect node input source output =>
    simp only [apply, connect_eq_ok_iff, Edit.Accepted, exists_and_left, exists_insertInput_iff,
      and_comm]
  | replaceNode node n => simp [apply, replaceNode_eq_ok_iff, Edit.Accepted]
  | insertNode node n => simp [apply, Edit.Accepted]

/-- An edit writes what it writes and keeps all other inputs. -/
theorem value?_apply {e : Edit} (h : g.apply e = .ok g') (id name : String) :
    g'.value? id name = (e.written? id name).getD (g.value? id name) := by
  have hinput {node input : String} {v : Value} (hg : g.insertInput node input v = .ok g') :
      g'.value? id name =
        (if id = node ∧ name = input then some (some v) else none).getD (g.value? id name) := by
    obtain ⟨n, hn, rfl⟩ := insertInput_eq_ok_iff.1 hg
    rw [(insert_setInput hn input v).1]
    split <;> rfl
  have hnode (node : String) (n : Node) : Graph.value? (g.insert node n) id name =
      (if id = node then some (n.input? name) else none).getD (g.value? id name) := by
    rw [value?_insert]
    split <;> rfl
  cases e with
  | setInput node input value => exact hinput (setInput_eq_ok_iff.1 h).2
  | insertInput node input value => exact hinput h
  | connect node input source output => exact hinput (connect_eq_ok_iff.1 h).2
  | replaceNode node n =>
    rw [(replaceNode_eq_ok_iff.1 h).2]
    exact hnode node n
  | insertNode node n =>
    obtain rfl : g.insert node n = g' := by simpa [apply] using h
    exact hnode node n

/-- An edit that puts no node in a place keeps the label there. -/
theorem label?_apply {e : Edit} (h : g.apply e = .ok g') (id : String) :
    g'.label? id = (e.relabeled? id).or (g.label? id) := by
  have hinput {node input : String} {v : Value} (hg : g.insertInput node input v = .ok g') :
      g'.label? id = g.label? id := by
    obtain ⟨n, hn, rfl⟩ := insertInput_eq_ok_iff.1 hg
    exact (insert_setInput hn input v).2 id
  have hnode (node : String) (n : Node) : Graph.label? (g.insert node n) id =
      (if id = node then some n.label else none).or (g.label? id) := by
    rw [label?_insert]
    split <;> rfl
  cases e with
  | setInput node input value => exact hinput (setInput_eq_ok_iff.1 h).2
  | insertInput node input value => exact hinput h
  | connect node input source output => exact hinput (connect_eq_ok_iff.1 h).2
  | replaceNode node n =>
    rw [(replaceNode_eq_ok_iff.1 h).2]
    exact hnode node n
  | insertNode node n =>
    obtain rfl : g.insert node n = g' := by simpa [apply] using h
    exact hnode node n

theorem exists_setInput {id name : String} {v : Value} (h : g.setInput id name v = .ok g')
    (w : Value) : ∃ g₁, g.setInput id name w = .ok g₁ ∧ g'.setInput id name w = .ok g₁ := by
  obtain ⟨hvalue, hinsert⟩ := setInput_eq_ok_iff.1 h
  obtain ⟨n, hn, rfl⟩ := insertInput_eq_ok_iff.1 hinsert
  have hwritten : Graph.value? (g.insert id (n.setInput name v)) id name = some v := by
    rw [(insert_setInput hn name v).1, if_pos ⟨rfl, rfl⟩]
  refine ⟨g.insert id (n.setInput name w),
    setInput_eq_ok_iff.2 ⟨hvalue, insertInput_eq_ok_iff.2 ⟨n, hn, rfl⟩⟩,
    setInput_eq_ok_iff.2 ⟨⟨v, hwritten⟩, insertInput_eq_ok_iff.2 ⟨n.setInput name v, ?_, ?_⟩⟩⟩
  · rw [Table.find?_insert, if_pos rfl]
  · rw [Table.insert_insert, Node.setInput, Node.setInput, Node.setInput, Table.insert_insert]

/-! ## Runs of edits -/

theorem applyAll_nil : g.applyAll [] = .ok g := rfl

theorem applyAll_cons_eq_ok_iff {e : Edit} {es : List Edit} :
    g.applyAll (e :: es) = .ok g' ↔ ∃ g₁, g.apply e = .ok g₁ ∧ g₁.applyAll es = .ok g' := by
  unfold applyAll
  rw [List.foldlM_cons]
  cases g.apply e <;> simp [bind, Except.bind]

theorem applyAll_append_eq_ok_iff {es es' : List Edit} :
    g.applyAll (es ++ es') = .ok g' ↔ ∃ g₁, g.applyAll es = .ok g₁ ∧ g₁.applyAll es' = .ok g' := by
  induction es generalizing g with
  | nil => simp [applyAll_nil]
  | cons e es ih =>
    simp only [List.cons_append, applyAll_cons_eq_ok_iff, ih]
    constructor
    · rintro ⟨g₁, he, g₂, hes, hes'⟩
      exact ⟨g₂, ⟨g₁, he, hes⟩, hes'⟩
    · rintro ⟨g₂, ⟨g₁, he, hes⟩, hes'⟩
      exact ⟨g₁, he, g₂, hes, hes'⟩

theorem value?_applyAll {es : List Edit} (h : g.applyAll es = .ok g') {id name : String}
    (hes : ∀ e ∈ es, e.written? id name = none) : g'.value? id name = g.value? id name := by
  induction es generalizing g with
  | nil =>
    cases h
    rfl
  | cons e es ih =>
    obtain ⟨g₁, he, hrest⟩ := applyAll_cons_eq_ok_iff.1 h
    rw [ih hrest fun d hd => hes d (List.mem_cons_of_mem e hd), value?_apply he,
      hes e List.mem_cons_self]
    rfl

theorem label?_applyAll {es : List Edit} (h : g.applyAll es = .ok g') {id : String}
    (hes : ∀ e ∈ es, e.relabeled? id = none) : g'.label? id = g.label? id := by
  induction es generalizing g with
  | nil =>
    cases h
    rfl
  | cons e es ih =>
    obtain ⟨g₁, he, hrest⟩ := applyAll_cons_eq_ok_iff.1 h
    rw [ih hrest fun d hd => hes d (List.mem_cons_of_mem e hd), label?_apply he,
      hes e List.mem_cons_self]
    rfl

end Graph

end Renderflow
