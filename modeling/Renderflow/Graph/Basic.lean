import Renderflow.Graph.Value
import Renderflow.Table

/-!
# Workflow graphs

A graph is a table of nodes. A node has a class, a table of inputs and, for display, a title. As it
is written down, a graph is a list of nodes, each with a list of inputs. Of two nodes of one id, and
of two inputs of one name, the later one counts.
-/

namespace Renderflow

structure Node where
  classType : String
  inputs : Table Value
  title : Option String

namespace Node

/-- A node with a title and the given inputs. -/
def of (classType title : String) (inputs : List (String × Value)) : Node :=
  { classType, inputs := Table.ofList inputs, title := some title }

def input? (n : Node) (name : String) : Option Value :=
  n.inputs.find? name

/-- The connected inputs of a node, in the order of their names. -/
def connections (n : Node) : List (String × Connection) :=
  n.inputs.entries.filterMap fun e => e.2.link?.map fun c => (e.1, c)

def setInput (n : Node) (name : String) (value : Value) : Node :=
  { n with inputs := n.inputs.insert name value }

end Node

abbrev Graph := Table Node

/-- Why an edit of a graph is refused. -/
inductive GraphError where
  | missingNode (node : String)
  | missingInput (node input : String)
  deriving DecidableEq, Repr

def GraphError.message : GraphError → String
  | missingNode node => "Node `" ++ node ++ "` not found in graph"
  | missingInput node input => "Node `" ++ node ++ "` has no input `" ++ input ++ "`"

namespace Graph

def node (g : Graph) (id : String) : Except GraphError Node :=
  match g.find? id with
  | some n => .ok n
  | none => .error (.missingNode id)

def input (g : Graph) (id name : String) : Except GraphError Value := do
  let n ← g.node id
  match n.input? name with
  | some v => .ok v
  | none => .error (.missingInput id name)

/-- The nodes of a class, in the order of their ids. -/
def ofClass (g : Graph) (classType : String) : List (String × Node) :=
  g.entries.filter fun e => e.2.classType == classType

end Graph

/-! ## Layouts -/

/-- A node of a layout. -/
structure NodeLayout where
  of ::
  classType : String
  title : String
  inputs : List (String × Value)

def NodeLayout.node (n : NodeLayout) : Node :=
  .of n.classType n.title n.inputs

abbrev Layout := List (String × NodeLayout)

/-- The graph of a layout. -/
def Layout.graph (l : Layout) : Graph :=
  Table.ofList (l.map fun e => (e.1, e.2.node))

end Renderflow
