import Renderflow.Graph.Change
import Renderflow.Proofs.Graph.Edit
import Mathlib

/-!
# Changes that are done or leave no trace

A change in place fails before it writes: the node that it writes to is looked for first, and each
of its writes keeps that node. So it is done as a whole or not at all, and a run of changes keeps
the nodes of the graph.
-/

namespace Renderflow

namespace Node

/-- A node with values written into its inputs, one after the other. -/
def setInputs (n : Node) (values : List (String × Value)) : Node :=
  values.foldl (fun n e => n.setInput e.1 e.2) n

theorem label_setInputs (n : Node) (values : List (String × Value)) :
    (n.setInputs values).label = n.label := by
  induction values generalizing n with
  | nil => rfl
  | cons e values ih => exact ih (n.setInput e.1 e.2)

theorem input?_setInputs (n : Node) (values : List (String × Value)) (name : String) :
    (n.setInputs values).input? name = (Table.last? name values).or (n.input? name) := by
  induction values generalizing n with
  | nil => rfl
  | cons e values ih =>
    show ((n.setInput e.1 e.2).setInputs values).input? name = _
    rw [ih, Node.input?_setInput, Table.last?, Option.or_assoc]
    by_cases h : e.1 = name
    · simp [h]
    · simp [h, Ne.symm h]

end Node

namespace Graph

variable {g g' : Graph} {id name : String}

theorem input_eq_ok_iff {v : Value} : g.input id name = .ok v ↔ g.value? id name = some v := by
  unfold input node value?
  cases g.find? id with
  | none => simp [bind, Except.bind]
  | some n => cases hi : n.input? name <;> simp [bind, Except.bind, hi]

/-- What is read from an input depends on its node being there and on its value. -/
theorem input_congr (hcontains : g'.contains id = g.contains id)
    (hvalue : g'.value? id name = g.value? id name) : g'.input id name = g.input id name := by
  unfold Table.contains at hcontains
  unfold value? at hvalue
  unfold input node
  cases hg : g.find? id with
  | none =>
    have hg' : g'.find? id = none := by simpa [hg] using hcontains
    rw [hg']
  | some n =>
    obtain ⟨n', hg'⟩ := Option.isSome_iff_exists.1 (by simpa [hg] using hcontains)
    rw [hg, hg', Option.bind_some, Option.bind_some] at hvalue
    simp only [hg', bind, Except.bind, hvalue]

end Graph

/-! ## Edits in place -/

namespace InPlace

variable {g : Graph} {id name : String} {n : Node}

/-- What a computation in place comes to that leaves no trace when it fails. -/
def settle (g : Graph) : Except GraphError Graph → EStateM.Result GraphError Graph Unit
  | .ok g' => .ok () g'
  | .error e => .error e g

theorem run_node : (node id).run g = match g.find? id with
    | some n => .ok n g
    | none => .error (.missingNode id) g := by
  show (match g.find? id with
    | some n => pure n
    | none => throw (.missingNode id) : InPlace Node) g = _
  cases g.find? id <;> rfl

theorem run_bind {α β : Type} (x : InPlace α) (f : α → InPlace β) (g : Graph) :
    (x >>= f).run g = match x.run g with
      | .ok a g' => (f a).run g'
      | .error e g' => .error e g' := by
  show EStateM.bind x f g = _
  unfold EStateM.bind EStateM.run
  cases x g <;> rfl

theorem run_insertInput (g : Graph) (id name : String) (v : Value) :
    (insertInput id name v).run g = settle g (g.insertInput id name v) := by
  rw [insertInput, run_bind, run_node, Graph.insertInput, Graph.node]
  cases g.find? id <;> rfl

/-- A single edit in place leaves no trace when it fails. -/
theorem run_apply (g : Graph) (e : Edit) : (apply e).run g = settle g (g.apply e) := by
  cases e with
  | setInput id name v =>
    show (setInput id name v).run g = settle g (g.setInput id name v)
    rw [setInput, run_bind, run_node, Graph.setInput, Graph.node]
    cases g.find? id with
    | none => rfl
    | some n => cases hi : n.input? name <;> simp [hi, bind, Except.bind] <;> rfl
  | insertInput id name v => exact run_insertInput g id name v
  | connect id name source output =>
    show (connect id name source output).run g = settle g (g.connect id name source output)
    rw [connect, run_bind, run_node, Graph.connect, Graph.node]
    cases g.find? source with
    | none => rfl
    | some n => exact run_insertInput g id name _
  | replaceNode id replacement =>
    show (Functor.mapConst PUnit.unit (replaceNode id replacement)).run g =
      settle g (g.replaceNode id replacement)
    rw [map_const, Function.comp, map_eq_pure_bind, run_bind, replaceNode, run_bind, run_node,
      Graph.replaceNode, Graph.node]
    cases g.find? id <;> rfl
  | insertNode id addition => rfl

theorem run_forM_cons (g : Graph) (e : Edit) (es : List Edit) :
    ((e :: es).forM apply).run g = match g.apply e with
      | .ok g' => (es.forM apply).run g'
      | .error err => .error err g := by
  show (apply e >>= fun _ => es.forM apply).run g = _
  rw [run_bind, run_apply]
  cases g.apply e <;> rfl

/-- Edits in place come to what the edits of a graph that is a value come to, but for what an error
leaves behind. -/
theorem run_forM (g : Graph) (es : List Edit) :
    match g.applyAll es with
    | .ok g' => (es.forM apply).run g = .ok () g'
    | .error err => ∃ left, (es.forM apply).run g = .error err left := by
  induction es generalizing g with
  | nil => rfl
  | cons e es ih =>
    rw [run_forM_cons, Graph.applyAll, List.foldlM_cons]
    cases g.apply e with
    | error err => exact ⟨g, rfl⟩
    | ok g₁ => exact ih g₁

/-- Inputs of a node of the graph are written whatever they are. -/
theorem run_forM_insertInput (hn : g.find? id = some n) (values : List (String × Value)) :
    ((values.map fun e => Edit.insertInput id e.1 e.2).forM apply).run g =
      .ok () (g.insert id (n.setInputs values)) := by
  induction values generalizing g n with
  | nil =>
    show EStateM.Result.ok () g = .ok () (g.insert id n)
    rw [Table.insert_of_find? hn]
  | cons e values ih =>
    have hfirst : g.apply (.insertInput id e.1 e.2) = .ok (g.insert id (n.setInput e.1 e.2)) :=
      Graph.insertInput_eq_ok_iff.2 ⟨n, hn, rfl⟩
    have hfind : Table.find? (g.insert id (n.setInput e.1 e.2)) id = some (n.setInput e.1 e.2) := by
      rw [Table.find?_insert, if_pos rfl]
    rw [List.map_cons, run_forM_cons, hfirst]
    show ((values.map fun e => Edit.insertInput id e.1 e.2).forM apply).run _ = _
    rw [ih hfind, Table.insert_insert]
    rfl

end InPlace

/-! ## What a change does -/

namespace Change

/-- The node that a change writes to. -/
def target : Change → String
  | setInput node _ _ | insertInput node _ _ | connect node _ _ _ | replaceNode node _ |
    style node _ | fileName node _ => node

/-- The values that a change writes, each with its input. -/
def values : Change → List (String × Value)
  | setInput _ input value | insertInput _ input value => [(input, value)]
  | connect _ input source output => [(input, .link ⟨source, output⟩)]
  | replaceNode _ replacement => replacement.inputs.entries
  | style _ s => (slotNames.zip s.slots).toList.map fun e => (e.1, e.2.value)
  | fileName _ stem => [("filename_prefix", .str stem)]

/-- The node that a change puts in the place of its target. -/
def replacement? : Change → Option Node
  | replaceNode _ replacement => some replacement
  | _ => none

/-- The nodes that a change needs, in the order in which they are looked for. -/
def needs : Change → List String
  | connect node _ source _ => [source, node]
  | c => [c.target]

/-- The input that a change needs, because it overwrites it. -/
def overwritten? : Change → Option String
  | setInput _ input _ => some input
  | fileName _ _ => some "filename_prefix"
  | _ => none

/-- What a change makes of its target. -/
def rewrite (c : Change) (n : Node) : Node :=
  c.replacement?.getD (n.setInputs c.values)

variable {g g' : Graph} {c : Change}

/-- The first node that a change needs and the graph lacks. -/
def lacking? (c : Change) (g : Graph) : Option String :=
  c.needs.find? fun id => !g.contains id

/-- Why a change is refused: a node that it needs is not there, or an input that it overwrites. -/
inductive Refused (c : Change) (g : Graph) : GraphError → Prop
  | node {id : String} (hid : c.lacking? g = some id) : Refused c g (.missingNode id)
  | input {name : String} (hneeds : c.lacking? g = none) (hname : c.overwritten? = some name)
    (hvalue : g.value? c.target name = none) : Refused c g (.missingInput c.target name)

/-- How a change ends. It is refused with the graph as it was, or it writes to its target. -/
inductive Ends (c : Change) (g : Graph) : EStateM.Result GraphError Graph Unit → Prop
  | refused {e : GraphError} (h : c.Refused g e) : Ends c g (.error e g)
  | done {n : Node} (hneeds : c.lacking? g = none)
    (hvalue : ∀ name, c.overwritten? = some name → ∃ v, g.value? c.target name = some v)
    (hn : g.find? c.target = some n) : Ends c g (.ok () (g.insert c.target (c.rewrite n)))

theorem run_single {e : Edit} (hc : c.edits = [e]) :
    c.perform.run g = InPlace.settle g (g.apply e) := by
  rw [perform, hc, InPlace.run_forM_cons]
  cases g.apply e <;> rfl

theorem lacking?_of_absent (hneeds : c.needs = [c.target]) (h : g.find? c.target = none) :
    c.lacking? g = some c.target := by
  simp [lacking?, hneeds, Table.contains, h]

theorem lacking?_of_present {n : Node} (hneeds : c.needs = [c.target])
    (h : g.find? c.target = some n) : c.lacking? g = none := by
  simp [lacking?, hneeds, Table.contains, h]

/-- A change that overwrites no input is done if its nodes are there. -/
theorem ends_of_present {n : Node} (hname : c.overwritten? = none) (hneeds : c.lacking? g = none)
    (hn : g.find? c.target = some n) :
    c.Ends g (.ok () (g.insert c.target (c.rewrite n))) := by
  refine .done hneeds (fun name h => ?_) hn
  rw [hname] at h
  cases h

/-- How the overwriting of an input ends. -/
theorem ends_of_setInput {input : String} {v : Value}
    (hedits : c.edits = [.setInput c.target input v]) (hneeds : c.needs = [c.target])
    (hname : c.overwritten? = some input)
    (hrewrite : ∀ n, c.rewrite n = n.setInput input v) : c.Ends g (c.perform.run g) := by
  rw [run_single hedits]
  show c.Ends g (InPlace.settle g (g.setInput c.target input v))
  unfold Graph.setInput Graph.node
  cases hn : g.find? c.target with
  | none => exact .refused (.node (lacking?_of_absent hneeds hn))
  | some n =>
    have hlacking := lacking?_of_present hneeds hn
    have hvalue : g.value? c.target input = n.input? input := by
      rw [Graph.value?, hn, Option.bind_some]
    cases hi : n.input? input with
    | none =>
      simp only [bind, Except.bind, hi]
      exact .refused (.input hlacking hname (hvalue.trans hi))
    | some w =>
      simp only [bind, Except.bind, hi]
      rw [← hrewrite]
      refine .done hlacking (fun name h => ?_) hn
      obtain rfl := Option.some.inj (hname.symm.trans h)
      exact ⟨w, hvalue.trans hi⟩

theorem ends_perform (g : Graph) (c : Change) : c.Ends g (c.perform.run g) := by
  cases c with
  | setInput node input v => exact ends_of_setInput rfl rfl rfl fun n => rfl
  | fileName node stem => exact ends_of_setInput rfl rfl rfl fun n => rfl
  | insertInput node input v =>
    rw [run_single rfl]
    show Ends _ g (InPlace.settle g (g.insertInput node input v))
    unfold Graph.insertInput Graph.node
    cases hn : g.find? node with
    | none => exact .refused (.node (lacking?_of_absent rfl hn))
    | some n => exact ends_of_present rfl (lacking?_of_present rfl hn) hn
  | connect node input source output =>
    rw [run_single rfl]
    show Ends _ g (InPlace.settle g (g.connect node input source output))
    unfold Graph.connect Graph.insertInput Graph.node
    cases hs : g.find? source with
    | none => exact .refused (.node (by simp [lacking?, needs, Table.contains, hs]))
    | some m =>
      cases hn : g.find? node with
      | none => exact .refused (.node (by simp [lacking?, needs, Table.contains, hs, hn]))
      | some n =>
        exact ends_of_present rfl (by simp [lacking?, needs, Table.contains, hs, hn]) hn
  | replaceNode node replacement =>
    rw [run_single rfl]
    show Ends _ g (InPlace.settle g (g.replaceNode node replacement))
    unfold Graph.replaceNode Graph.node
    cases hn : g.find? node with
    | none => exact .refused (.node (lacking?_of_absent rfl hn))
    | some n => exact ends_of_present rfl (lacking?_of_present rfl hn) hn
  | style node s =>
    have hedits : (style node s).edits =
        (style node s).values.map fun e => Edit.insertInput node e.1 e.2 := by
      simp [edits, values, ResolvedStyle.edits]
    rw [perform, hedits]
    cases hn : g.find? node with
    | none =>
      -- There are five slots, so the first of them finds no node to be written to.
      have hlength : (style node s).values.length = 5 := by simp [values]
      obtain ⟨e, rest, hvalues⟩ := List.exists_cons_of_length_eq_add_one hlength
      rw [hvalues, List.map_cons, InPlace.run_forM_cons]
      have hfirst : g.apply (.insertInput node e.1 e.2) = .error (.missingNode node) := by
        show g.insertInput node e.1 e.2 = _
        rw [Graph.insertInput, Graph.node, hn]
        rfl
      rw [hfirst]
      exact .refused (.node (lacking?_of_absent rfl hn))
    | some n =>
      rw [InPlace.run_forM_insertInput hn]
      exact ends_of_present rfl (lacking?_of_present rfl hn) hn

/-- A graph after a change: what is written is read back, and all else is as it was. -/
structure Wrote (c : Change) (g g' : Graph) : Prop where
  values : ∀ e ∈ c.values, g'.input c.target e.1 = .ok e.2
  replacement : ∀ n, c.replacement? = some n → g'.find? c.target = some n
  inputs : ∀ id name, id ≠ c.target ∨ c.replacement? = none ∧ (∀ e ∈ c.values, e.1 ≠ name) →
    g'.input id name = g.input id name
  labels : ∀ id, id ≠ c.target ∨ c.replacement? = none → g'.label? id = g.label? id
  keys : g'.keys = g.keys

theorem Refused.unique {e e' : GraphError} (h : c.Refused g e) (h' : c.Refused g e') : e = e' := by
  cases h with
  | node hid =>
    cases h' with
    | node hid' => rw [Option.some.inj (hid.symm.trans hid')]
    | input hneeds => simp [hneeds] at hid
  | input hneeds hname =>
    cases h' with
    | node hid => simp [hneeds] at hid
    | input _ hname' => rw [Option.some.inj (hname.symm.trans hname')]

theorem run_eq_error_iff {e : GraphError} {left : Graph} :
    c.perform.run g = .error e left ↔ left = g ∧ c.Refused g e := by
  have hends := ends_perform g c
  constructor
  · intro h
    rw [h] at hends
    cases hends with
    | refused hrefused => exact ⟨rfl, hrefused⟩
  · rintro ⟨rfl, hrefused⟩
    generalize c.perform.run left = r at hends ⊢
    cases hends with
    | refused hrefused' => rw [hrefused.unique hrefused']
    | done hneeds hvalue =>
      cases hrefused with
      | node hid => simp [hneeds] at hid
      | input _ hname hnone =>
        obtain ⟨v, hv⟩ := hvalue _ hname
        simp [hnone] at hv

/-- A change in place comes to what its edits of a graph that is a value come to. -/
theorem run_eq_settle (g : Graph) (c : Change) :
    c.perform.run g = InPlace.settle g (g.applyAll c.edits) := by
  have hrun := InPlace.run_forM g c.edits
  cases happly : g.applyAll c.edits with
  | ok g' => rwa [happly] at hrun
  | error e =>
    rw [happly] at hrun
    obtain ⟨left, hleft⟩ := hrun
    obtain ⟨rfl, -⟩ := run_eq_error_iff.1 hleft
    exact hleft

section

attribute [local instance] Text.decideEq

theorem nodup_values (c : Change) : (c.values.map Prod.fst).Nodup := by
  cases c with
  | replaceNode node replacement => exact replacement.inputs.nodup_keys
  | style node s =>
    have hnames : (style node s).values.map Prod.fst = slotNames.toList := by
      simp [values, Function.comp_def, Vector.toList_zip, List.map_fst_zip]
    rw [hnames]
    decide
  | setInput | insertInput | connect | fileName => exact List.pairwise_singleton _ _

end

theorem input?_rewrite {e : String × Value} (he : e ∈ c.values) (n : Node) :
    (c.rewrite n).input? e.1 = some e.2 := by
  have hlast : Table.last? e.1 c.values = some e.2 := Table.last?_of_mem c.nodup_values he
  cases c with
  | replaceNode node replacement => exact Table.find?_eq_some_iff.2 he
  | setInput | insertInput | connect | style | fileName =>
    show (n.setInputs _).input? e.1 = _
    rw [Node.input?_setInputs, hlast]
    rfl

theorem wrote_of_done {n : Node} (hn : g.find? c.target = some n) :
    c.Wrote g (g.insert c.target (c.rewrite n)) := by
  have hcontains : ∀ id, Table.contains (g.insert c.target (c.rewrite n)) id = g.contains id := by
    intro id
    rw [Table.contains_insert]
    by_cases hid : id = c.target <;> simp [hid, Table.contains, hn]
  refine ⟨fun e he => ?_, fun m hm => ?_, fun id name h => ?_, fun id h => ?_,
    Table.keys_congr hcontains⟩
  · rw [Graph.input_eq_ok_iff, Graph.value?_insert, if_pos rfl]
    exact input?_rewrite he n
  · rw [Table.find?_insert, if_pos rfl, rewrite, hm, Option.getD_some]
  · apply Graph.input_congr (hcontains id)
    rw [Graph.value?_insert]
    split
    · next hid =>
      obtain ⟨hnone, hother⟩ := h.resolve_left (absurd hid)
      rw [rewrite, hnone, Option.getD_none, Node.input?_setInputs, Table.last?_eq_none hother, hid,
        Graph.value?, hn]
      rfl
    · rfl
  · rw [Graph.label?_insert]
    split
    · next hid =>
      rw [rewrite, h.resolve_left (absurd hid), Option.getD_none, Node.label_setInputs, hid,
        Graph.label?, hn]
      rfl
    · rfl

theorem wrote_of_run (h : c.perform.run g = .ok () g') : c.Wrote g g' := by
  have hends := ends_perform g c
  rw [h] at hends
  cases hends with
  | done _ _ hn => exact wrote_of_done hn

end Change

/-! ## Runs of changes -/

namespace Graph

theorem keys_after (g : Graph) (c : Change) : (g.after c).keys = g.keys := by
  unfold after
  cases h : c.perform.run g with
  | ok done g' => exact (Change.wrote_of_run h).keys
  | error e left =>
    obtain ⟨rfl, -⟩ := Change.run_eq_error_iff.1 h
    rfl

theorem keys_afterAll (g : Graph) (cs : List Change) : (g.afterAll cs).keys = g.keys := by
  induction cs generalizing g with
  | nil => rfl
  | cons c cs ih => exact (ih (g.after c)).trans (keys_after g c)

/-- At any point of a run of changes the next one is done as a whole or leaves no trace. -/
theorem change_done_or_refused (g : Graph) (before : List Change) (c : Change) :
    let now := g.afterAll before
    (∀ e left, c.perform.run now = .error e left ↔ left = now ∧ c.Refused now e) ∧
      (∀ g', c.perform.run now = .ok () g' → c.Wrote now g') ∧
      c.perform.run now = InPlace.settle now (now.applyAll c.edits) ∧
      now.keys = g.keys ∧ (now.after c).keys = g.keys := by
  intro now
  have hnow : now.keys = g.keys := keys_afterAll g before
  exact ⟨fun _ _ => Change.run_eq_error_iff, fun _ => Change.wrote_of_run,
    Change.run_eq_settle now c, hnow, (keys_after now c).trans hnow⟩

def saving : Graph :=
  .ofList [("9", .of "SaveImage" "Save" [("filename_prefix", .str "a")])]

theorem change_done_or_refused_saving :
    (Change.connect "8" "images" "7" 0).perform.run saving = .error (.missingNode "7") saving ∧
      (Change.setInput "9" "images" (.str "b")).perform.run saving =
        .error (.missingInput "9" "images") saving ∧
      (saving.after (.fileName "9" "b")).input "9" "filename_prefix" = .ok (.str "b") := by
  obtain ⟨hconnect, -⟩ := change_done_or_refused saving [] (.connect "8" "images" "7" 0)
  obtain ⟨hset, -⟩ := change_done_or_refused saving [] (.setInput "9" "images" (.str "b"))
  obtain ⟨-, hdone, -⟩ := change_done_or_refused saving [] (.fileName "9" "b")
  have hrun : (Change.fileName "9" "b").perform.run saving =
      .ok () (saving.after (.fileName "9" "b")) := by cbv
  exact ⟨(hconnect _ _).2 ⟨rfl, .node (by cbv)⟩,
    (hset _ _).2 ⟨rfl, .input (by cbv) rfl (by cbv)⟩,
    (hdone _ hrun).values ("filename_prefix", .str "b") List.mem_cons_self⟩

end Graph

end Renderflow
