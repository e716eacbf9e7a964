import Renderflow.Proofs.Graph.Change
import Renderflow.Proofs.Graph.Reach
import Renderflow.Proofs.Text.Bytes
import Renderflow.Run.Script

/-!
# Dangling connections

A graph has one dangling connection for each input that is connected to no node of it, in the order
of the nodes and inputs however they are met. It is sent to an engine if it has none, and edits that
connect inputs to nodes of the graph alone bring none about.
-/

namespace Renderflow

namespace Graph

/-! ## The order of dangling connections -/

namespace Dangling

/-- One connection comes before another in the order of the bytes of their nodes and, at one node,
of their inputs. -/
def Before (a b : Dangling) : Prop :=
  Text.bytes a.node < Text.bytes b.node ∨
    a.node = b.node ∧ Text.bytes a.input < Text.bytes b.input

instance (a b : Dangling) : Decidable (a.Before b) :=
  inferInstanceAs (Decidable (_ ∨ _))

/-- Whether one connection need not stand behind another. -/
def notBehind (a b : Dangling) : Bool :=
  !decide (b.Before a)

variable {a b c : Dangling}

theorem before_iff : a.Before b ↔ a.node < b.node ∨ a.node = b.node ∧ a.input < b.input := by
  rw [Before, Text.bytes_lt_iff, Text.bytes_lt_iff]

theorem Before.trans (h : a.Before b) (h' : b.Before c) : a.Before c := by
  rw [before_iff] at *
  rcases h with h | ⟨h, hinput⟩
  · rcases h' with h' | ⟨h', -⟩
    · exact .inl (String.lt_trans h h')
    · exact .inl (h' ▸ h)
  · rcases h' with h' | ⟨h', hinput'⟩
    · exact .inl (h ▸ h')
    · exact .inr ⟨h.trans h', String.lt_trans hinput hinput'⟩

theorem not_before_self (a : Dangling) : ¬ a.Before a := by
  rw [before_iff]
  rintro (h | ⟨-, h⟩) <;> exact String.lt_irrefl _ h

/-- Two connections that stand in no order are at the same input. -/
theorem before_trichotomy (a b : Dangling) :
    a.Before b ∨ a.node = b.node ∧ a.input = b.input ∨ b.Before a := by
  rw [before_iff, before_iff]
  rcases lt_trichotomy a.node b.node with h | h | h
  · exact .inl (.inl h)
  · rcases lt_trichotomy a.input b.input with hi | hi | hi
    · exact .inl (.inr ⟨h, hi⟩)
    · exact .inr (.inl ⟨h, hi⟩)
    · exact .inr (.inr (.inr ⟨h.symm, hi⟩))
  · exact .inr (.inr (.inl h))

theorem notBehind_trans (a b c : Dangling) (h : a.notBehind b) (h' : b.notBehind c) :
    a.notBehind c := by
  simp only [notBehind, Bool.not_eq_true', decide_eq_false_iff_not] at *
  intro hca
  rcases before_trichotomy a b with hab | ⟨hnode, hinput⟩ | hba
  · exact h' (hca.trans hab)
  · apply h'
    rw [before_iff] at *
    rwa [← hnode, ← hinput]
  · exact h hba

theorem notBehind_total (a b : Dangling) : a.notBehind b || b.notBehind a := by
  simp only [notBehind, Bool.or_eq_true, Bool.not_eq_true', decide_eq_false_iff_not]
  by_contra hboth
  obtain ⟨hba, hab⟩ := not_or.1 hboth
  exact not_before_self a ((not_not.1 hab).trans (not_not.1 hba))

end Dangling

variable {g g' : Graph}

/-! ## What is listed -/

theorem link?_eq_some_iff {v : Value} {c : Connection} : v.link? = some c ↔ v = .link c := by
  cases v <;> simp [Value.link?]

theorem mem_dangling_iff {node input target : String} :
    ⟨node, input, target⟩ ∈ g.dangling ↔
      ∃ output, g.value? node input = some (.link ⟨target, output⟩) ∧ ¬ g.contains target := by
  have hconnection : ∀ c, g.value? node input = some (.link c) ↔
      ∃ n, (node, n) ∈ g.entries ∧ (input, c) ∈ n.connections := by
    intro c
    simp only [value?, Node.mem_connections, Option.bind_eq_some_iff, Table.find?_eq_some_iff,
      link?_eq_some_iff, exists_eq_right]
  simp only [hconnection, dangling, List.mem_flatMap, List.mem_map, List.mem_filter,
    Dangling.mk.injEq]
  constructor
  · rintro ⟨⟨_, n⟩, hn, ⟨_, target, output⟩, ⟨hc, habsent⟩, rfl, rfl, rfl⟩
    exact ⟨output, ⟨n, hn, hc⟩, by simpa using habsent⟩
  · rintro ⟨output, ⟨n, hn, hc⟩, habsent⟩
    exact ⟨(node, n), hn, (input, ⟨target, output⟩), ⟨hc, by simpa using habsent⟩, rfl, rfl, rfl⟩

theorem pairwise_dangling (g : Graph) : g.dangling.Pairwise Dangling.Before := by
  unfold dangling
  rw [List.pairwise_flatMap]
  constructor
  · intro e _
    have hinputs : e.2.connections.Pairwise fun x y => x.1 < y.1 := by
      unfold Node.connections
      rw [List.pairwise_filterMap]
      apply e.2.inputs.ordered.imp
      intro x y hxy c hc d hd
      obtain ⟨_, -, rfl⟩ := Option.map_eq_some_iff.1 hc
      obtain ⟨_, -, rfl⟩ := Option.map_eq_some_iff.1 hd
      exact hxy
    rw [List.pairwise_map]
    apply (hinputs.filter _).imp
    intro x y hxy
    exact Dangling.before_iff.2 (.inr ⟨rfl, hxy⟩)
  · apply g.ordered.imp
    intro e e' he x hx y hy
    obtain ⟨_, -, rfl⟩ := List.mem_map.1 hx
    obtain ⟨_, -, rfl⟩ := List.mem_map.1 hy
    exact Dangling.before_iff.2 (.inl he)

/-- An input has no two dangling connections. -/
theorem dangling_unique {a b : Dangling} (ha : a ∈ g.dangling) (hb : b ∈ g.dangling)
    (hnode : a.node = b.node) (hinput : a.input = b.input) : a = b := by
  obtain ⟨node, input, target⟩ := a
  obtain ⟨_, _, target'⟩ := b
  obtain rfl : node = _ := hnode
  obtain rfl : input = _ := hinput
  obtain ⟨output, hvalue, -⟩ := mem_dangling_iff.1 ha
  obtain ⟨output', hvalue', -⟩ := mem_dangling_iff.1 hb
  obtain ⟨rfl, -⟩ : target = target' ∧ output = output' := by
    simpa [hvalue] using hvalue'
  rfl

/-- The dangling connection that an input of a node holds. -/
def danglingAt? (g : Graph) (node : String) (input : String × Value) : Option Dangling :=
  input.2.link?.bind fun c =>
    if g.contains c.node then none else some { node, input := input.1, target := c.node }

/-- The dangling connections as they are met in some order of the inputs of each node. -/
def danglingMet (g : Graph) (inputs : String → List (String × Value)) : List Dangling :=
  g.entries.flatMap fun e => (inputs e.1).filterMap (g.danglingAt? e.1)

theorem danglingMet_perm {inputs : String → List (String × Value)} (h : g.Lists inputs) :
    (g.danglingMet inputs).Perm g.dangling := by
  apply List.Perm.flatMap_left
  intro e he
  have hnode : (e.2.connections.filter fun c => !g.contains c.2.node).map (fun c =>
      { node := e.1, input := c.1, target := c.2.node : Dangling }) =
      e.2.inputs.entries.filterMap (g.danglingAt? e.1) := by
    rw [Node.connections, List.filter_filterMap, List.map_filterMap]
    apply List.filterMap_congr
    intro i _
    cases hc : i.2.link? with
    | none => simp [danglingAt?, hc]
    | some c => cases hg : g.contains c.node <;> simp [danglingAt?, hc, hg]
  rw [hnode]
  exact (h e.1 e.2 (Table.find?_eq_some_iff.2 he)).filterMap _

/-- In order, the dangling connections are the same however they were met. -/
theorem mergeSort_danglingMet {inputs : String → List (String × Value)} (h : g.Lists inputs) :
    (g.danglingMet inputs).mergeSort Dangling.notBehind = g.dangling := by
  have hperm := danglingMet_perm h
  have hsorted : ((g.danglingMet inputs).mergeSort Dangling.notBehind).Pairwise
      fun a b => a.notBehind b = true :=
    List.pairwise_mergeSort Dangling.notBehind_trans Dangling.notBehind_total _
  have hordered : g.dangling.Pairwise fun a b => a.notBehind b = true := by
    apply g.pairwise_dangling.imp
    intro a b hab
    simpa [Dangling.notBehind] using fun hba => Dangling.not_before_self a (hab.trans hba)
  have hperm' := (List.mergeSort_perm (g.danglingMet inputs) Dangling.notBehind).trans hperm
  apply List.Perm.eq_of_pairwise _ hsorted hordered hperm'
  intro a b ha hb hab hba
  simp only [Dangling.notBehind, Bool.not_eq_true', decide_eq_false_iff_not] at hab hba
  rcases Dangling.before_trichotomy a b with hlt | ⟨hnode, hinput⟩ | hgt
  · exact absurd hlt hba
  · exact dangling_unique (hperm'.mem_iff.1 ha) hb hnode hinput
  · exact absurd hgt hab

/-! ## What is refused -/

theorem refusal?_eq_some_iff {message : String} :
    g.refusal? = some message ↔ ∃ first rest, g.dangling = first :: rest ∧
      message = "Input `" ++ first.input ++ "` of node `" ++ first.node ++
        "` points at missing node `" ++ first.target ++ "` (" ++
        toString g.dangling.length ++ " dangling connections)" := by
  unfold refusal?
  cases hd : g.dangling with
  | nil => simp
  | cons first rest =>
    rw [Option.some_inj]
    constructor
    · rintro rfl
      exact ⟨first, rest, rfl, rfl⟩
    · rintro ⟨_, _, hcons, rfl⟩
      obtain ⟨rfl, rfl⟩ := List.cons.inj hcons
      rfl

theorem refusal?_eq_none_iff : g.refusal? = none ↔ g.dangling = [] := by
  unfold refusal?
  cases g.dangling <;> simp

/-! ## Graphs that grow -/

/-- The connections of a node lead to nodes of the graph, or to the id that the node gets. -/
def Takes (g : Graph) (id : String) (n : Node) : Prop :=
  ∀ name c, n.input? name = some (.link c) → g.contains c.node ∨ c.node = id

/-- A node brings no dangling connection if each of its connections leads to a node, or was there
before it. -/
theorem dangling_insert_subset {id : String} {n : Node}
    (h : ∀ name c, n.input? name = some (.link c) →
      (g.contains c.node ∨ c.node = id) ∨ g.value? id name = some (.link c)) :
    dangling (g.insert id n) ⊆ g.dangling := by
  rintro ⟨node, input, target⟩ hmem
  obtain ⟨output, hvalue, habsent⟩ := mem_dangling_iff.1 hmem
  rw [Table.contains_insert, Bool.or_eq_true, decide_eq_true_iff, not_or] at habsent
  refine mem_dangling_iff.2 ⟨output, ?_, habsent.2⟩
  rw [value?_insert] at hvalue
  split at hvalue
  · next hnode =>
    rcases h input _ hvalue with (hcontains | hid) | hold
    · exact absurd hcontains habsent.2
    · exact absurd hid habsent.1
    · rwa [hnode]
  · exact hvalue

end Graph

namespace Change

/-- A change gives its target connections to nodes of the graph alone. -/
def LinksWithin (c : Change) (g : Graph) : Prop :=
  match c with
  | setInput _ _ value | insertInput _ _ value => value.link? = none
  | replaceNode node replacement => g.Takes node replacement
  | connect .. | style .. | fileName .. => True

variable {g g' : Graph} {c : Change}

/-- Of the values that a change writes, the connections lead to nodes of the graph. -/
theorem contains_of_mem_values (h : c.LinksWithin g) (hneeds : c.lacking? g = none)
    {name : String} {l : Connection} (hl : (name, .link l) ∈ c.values) :
    g.contains l.node ∨ l.node = c.target := by
  cases c with
  | setInput node input v | insertInput node input v =>
    obtain ⟨rfl, rfl⟩ : name = input ∧ .link l = v := by simpa [values] using hl
    cases h
  | connect node input source output =>
    obtain ⟨rfl, rfl⟩ : name = input ∧ l = ⟨source, output⟩ := by simpa [values] using hl
    have hpresent : ∀ id ∈ [source, node], g.contains id := by
      simpa [lacking?, needs] using hneeds
    exact .inl (hpresent source (by simp))
  | replaceNode node replacement => exact h name l (Table.find?_eq_some_iff.2 hl)
  | style node s =>
    obtain ⟨e, -, heq⟩ := List.mem_map.1 hl
    cases heq
  | fileName node stem => simp [values] at hl

/-- What a change writes brings no dangling connection. -/
theorem dangling_subset_of_run (h : c.LinksWithin g) (hrun : c.perform.run g = .ok () g') :
    g'.dangling ⊆ g.dangling := by
  have hends := ends_perform g c
  rw [hrun] at hends
  cases hends with
  | done hneeds _ hn =>
    rename_i n
    apply Graph.dangling_insert_subset
    intro name l hl
    cases hc : c.replacement? with
    | some m =>
      have hwritten : (name, .link l) ∈ c.values := by
        cases c with
        | replaceNode node replacement => exact Table.find?_eq_some_iff.1 hl
        | setInput | insertInput | connect | style | fileName => cases hc
      exact .inl (contains_of_mem_values h hneeds hwritten)
    | none =>
      rw [rewrite, hc, Option.getD_none, Node.input?_setInputs, Option.or_eq_some_iff] at hl
      rcases hl with hl | ⟨-, hl⟩
      · exact .inl (contains_of_mem_values h hneeds (Table.mem_of_last? hl))
      · exact .inr (by rw [Graph.value?, hn, Option.bind_some, hl])

end Change

namespace Graph

/-- A step that connects inputs to nodes of the graph alone. -/
inductive Extends (g : Graph) : Graph → Prop
  | change {c : Change} {g' : Graph} (h : c.LinksWithin g) (hrun : c.perform.run g = .ok () g') :
    Extends g g'
  | insertNode {id : String} {n : Node} {g' : Graph} (h : g.Takes id n)
    (hrun : (InPlace.apply (.insertNode id n)).run g = .ok () g') : Extends g g'

variable {g g' : Graph}

theorem Extends.dangling_subset (h : g.Extends g') : g'.dangling ⊆ g.dangling := by
  cases h with
  | change h hrun => exact Change.dangling_subset_of_run h hrun
  | insertNode h hrun =>
    cases hrun
    exact dangling_insert_subset fun name c hc => .inl (h name c hc)

theorem dangling_subset_of_extends (h : Relation.ReflTransGen Extends g g') :
    g'.dangling ⊆ g.dangling := by
  induction h with
  | refl => exact List.Subset.refl _
  | tail _ hstep ih => exact List.Subset.trans hstep.dangling_subset ih

/-- A graph is queued if it has no dangling connection. -/
theorem queueing_eq {o : Outside} {config : Config} {endpoint : Url}
    (h : Endpoint.ofAddress config.engineAddress = .ok endpoint) :
    CommandLine.Invocation.queueing o config g =
      if g.dangling = [] then .ok (.submit endpoint { graph := g, clientId := o.clientId })
      else .error .notQueued := by
  unfold CommandLine.Invocation.queueing
  rw [h]
  by_cases hd : g.dangling = []
  · simp [hd, refusal?_eq_none_iff.2 hd]
  · have hsome : g.refusal?.isSome := by
      rwa [Option.isSome_iff_ne_none, Ne, refusal?_eq_none_iff]
    simp [hd, hsome]

/-- The dangling connections of a graph are listed, one for an input, in their order. They alone
keep the graph from an engine, and steps that connect to nodes alone bring none about. -/
theorem dangling_listed (g g' : Graph) (inputs : String → List (String × Value))
    (h : g.Lists inputs) (hrun : Relation.ReflTransGen Extends g g') :
    (∀ node input target, ⟨node, input, target⟩ ∈ g.dangling ↔
      ∃ output, g.value? node input = some (.link ⟨target, output⟩) ∧ ¬ g.contains target) ∧
    g.dangling.Pairwise Dangling.Before ∧
    (g.danglingMet inputs).mergeSort Dangling.notBehind = g.dangling ∧
    (∀ message, g.refusal? = some message ↔ ∃ first rest, g.dangling = first :: rest ∧
      message = "Input `" ++ first.input ++ "` of node `" ++ first.node ++
        "` points at missing node `" ++ first.target ++ "` (" ++
        toString g.dangling.length ++ " dangling connections)") ∧
    (∀ (o : Outside) (config : Config) (endpoint : Url),
      Endpoint.ofAddress config.engineAddress = .ok endpoint →
      CommandLine.Invocation.queueing o config g =
        if g.dangling = [] then .ok (.submit endpoint { graph := g, clientId := o.clientId })
        else .error .notQueued) ∧
    g'.dangling ⊆ g.dangling :=
  ⟨fun _ _ _ => mem_dangling_iff, g.pairwise_dangling, mergeSort_danglingMet h,
    fun _ => refusal?_eq_some_iff, fun _ _ _ => queueing_eq, dangling_subset_of_extends hrun⟩

/-- A graph with three connections to no node. -/
def severed : Graph :=
  .ofList
    [("2", .of "Save" "Save" [("images", .link ⟨"9", 0⟩)]),
      ("10", .of "Decode" "Decode" [("clip", .link ⟨"8", 0⟩), ("vae", .link ⟨"9", 2⟩)])]

/-- The saved images are connected, and a node is added that takes them too. -/
def mended : Graph :=
  .insert (.insert severed "2" (.of "Save" "Save" [("images", .link ⟨"10", 1⟩)])) "11"
    (.of "Preview" "Preview" [("images", .link ⟨"10", 1⟩)])

theorem severed_extends_mended : Relation.ReflTransGen Extends severed mended := by
  have hconnect : severed.Extends
      (.insert severed "2" (.of "Save" "Save" [("images", .link ⟨"10", 1⟩)])) :=
    .change (c := .connect "2" "images" "10" 1) trivial (by cbv)
  refine .tail (.single hconnect) (.insertNode ?_ rfl)
  intro name c hc
  rw [Node.input?_of] at hc
  obtain ⟨rfl, rfl⟩ : "images" = name ∧ ⟨"10", 1⟩ = c := by simpa [Table.last?] using hc
  exact .inl (by cbv)

theorem dangling_listed_severed :
    severed.Lists severed.reversedInputs ∧ Relation.ReflTransGen Extends severed mended ∧
      severed.danglingMet severed.reversedInputs =
        [⟨"10", "vae", "9"⟩, ⟨"10", "clip", "8"⟩, ⟨"2", "images", "9"⟩] ∧
      severed.dangling = [⟨"10", "clip", "8"⟩, ⟨"10", "vae", "9"⟩, ⟨"2", "images", "9"⟩] ∧
      severed.refusal? = some
        "Input `clip` of node `10` points at missing node `8` (3 dangling connections)" ∧
      mended.dangling = [⟨"10", "clip", "8"⟩, ⟨"10", "vae", "9"⟩] ∧
      mended.dangling ⊆ severed.dangling := by
  obtain ⟨-, -, -, hrefusal, -, hsubset⟩ := dangling_listed severed mended severed.reversedInputs
    (lists_reversedInputs severed) severed_extends_mended
  have hdangling : severed.dangling =
      [⟨"10", "clip", "8"⟩, ⟨"10", "vae", "9"⟩, ⟨"2", "images", "9"⟩] := by cbv
  refine ⟨lists_reversedInputs severed, severed_extends_mended, by cbv, hdangling, ?_, by cbv,
    hsubset⟩
  exact (hrefusal _).2 ⟨_, _, hdangling, by rw [hdangling]; rfl⟩

end Graph

end Renderflow
