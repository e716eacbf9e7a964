import Renderflow.Graph.Basic

/-!
# Edits

An edit names a node that has to exist, except for the insertion of a whole node. An edit
that is refused changes nothing, because the graph is a value.
-/

namespace Renderflow

inductive Edit where
  /-- Overwrites an input that the node already has. -/
  | setInput (node input : String) (value : Value)
  /-- Writes an input whether or not the node has it. -/
  | insertInput (node input : String) (value : Value)
  /-- Wires an input to an output of a node of the graph. -/
  | connect (node input source : String) (output : UInt32)
  /-- Puts another node in the place of an existing one. -/
  | replaceNode (node : String) (replacement : Node)
  /-- Adds a node, over an existing one of the same id. -/
  | insertNode (node : String) (addition : Node)

namespace Graph

def setInput (g : Graph) (id name : String) (value : Value) : Except GraphError Graph := do
  let n ← g.node id
  match n.input? name with
  | some _ => .ok (g.insert id (n.setInput name value))
  | none => .error (.missingInput id name)

def insertInput (g : Graph) (id name : String) (value : Value) : Except GraphError Graph := do
  let n ← g.node id
  .ok (g.insert id (n.setInput name value))

def connect (g : Graph) (id name source : String) (output : UInt32) : Except GraphError Graph := do
  let _ ← g.node source
  g.insertInput id name (.link ⟨source, output⟩)

def replaceNode (g : Graph) (id : String) (replacement : Node) : Except GraphError Graph := do
  let _ ← g.node id
  .ok (g.insert id replacement)

def apply (g : Graph) : Edit → Except GraphError Graph
  | .setInput node input value => g.setInput node input value
  | .insertInput node input value => g.insertInput node input value
  | .connect node input source output => g.connect node input source output
  | .replaceNode node replacement => g.replaceNode node replacement
  | .insertNode node addition => .ok (g.insert node addition)

/-- Applies edits in order up to the first that is refused. -/
def applyAll (g : Graph) (edits : List Edit) : Except GraphError Graph :=
  edits.foldlM apply g

/-- Gives every node of a class the same title. -/
def retitle (g : Graph) (classType title : String) : Graph :=
  g.mapValues fun _ n => if n.classType == classType then { n with title := some title } else n

end Graph

end Renderflow
