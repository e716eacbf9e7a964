import Renderflow.Style

/-!
# Changes in place

A graph that stands in one place is changed there. What was written before an error stays
written, so a change of several writes might fail halfway.
-/

namespace Renderflow

/-- A computation on the graph that stands in one place. -/
abbrev InPlace := EStateM GraphError Graph

namespace InPlace

def node (id : String) : InPlace Node := do
  match (← get).find? id with
  | some n => pure n
  | none => throw (.missingNode id)

def write (id : String) (n : Node) : InPlace Unit :=
  modify fun g => g.insert id n

def setInput (id name : String) (value : Value) : InPlace Unit := do
  let n ← node id
  match n.input? name with
  | some _ => write id (n.setInput name value)
  | none => throw (.missingInput id name)

def insertInput (id name : String) (value : Value) : InPlace Unit := do
  let n ← node id
  write id (n.setInput name value)

def connect (id name source : String) (output : UInt32) : InPlace Unit := do
  let _ ← node source
  insertInput id name (.link ⟨source, output⟩)

/-- Gives back the node that was there. -/
def replaceNode (id : String) (replacement : Node) : InPlace Node := do
  let old ← node id
  write id replacement
  pure old

def apply : Edit → InPlace Unit
  | .setInput node input value => setInput node input value
  | .insertInput node input value => insertInput node input value
  | .connect node input source output => connect node input source output
  | .replaceNode node replacement => discard (replaceNode node replacement)
  | .insertNode node addition => write node addition

end InPlace

/-- A change of the nodes that a graph has. -/
inductive Change where
  /-- Overwrites an input that the node already has. -/
  | setInput (node input : String) (value : Value)
  /-- Writes an input whether or not the node has it. -/
  | insertInput (node input : String) (value : Value)
  /-- Wires an input to an output of a node of the graph. -/
  | connect (node input source : String) (output : UInt32)
  /-- Puts another node in the place of an existing one. -/
  | replaceNode (node : String) (replacement : Node)
  /-- Writes the slots of a style, one after the other. -/
  | style (node : String) (style : ResolvedStyle)
  /-- Overwrites the path of the files that a node saves. -/
  | fileName (node stem : String)

namespace Change

def edits : Change → List Edit
  | setInput node input value => [.setInput node input value]
  | insertInput node input value => [.insertInput node input value]
  | connect node input source output => [.connect node input source output]
  | replaceNode node replacement => [.replaceNode node replacement]
  | style node s => s.edits node
  | fileName node stem => [.setInput node "filename_prefix" (.str stem)]

def perform (c : Change) : InPlace Unit :=
  c.edits.forM InPlace.apply

end Change

namespace Graph

/-- The graph that a change leaves, be it done or refused. -/
def after (g : Graph) (c : Change) : Graph :=
  match c.perform.run g with
  | .ok _ left => left
  | .error _ left => left

/-- The graph that a run of changes leaves, which goes on after those that are refused. -/
def afterAll (g : Graph) (cs : List Change) : Graph :=
  cs.foldl after g

end Graph

end Renderflow
