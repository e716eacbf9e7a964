import Renderflow.Graph.Basic
import Renderflow.Json.Decode

/-!
# Graphs as JSON

A graph is an object from node ids to nodes. A connection is a pair of a node id and an
output index; any other array, and null, is no input value. Whole numbers beyond a signed
word of 64 bits become doubles.
-/

namespace Renderflow

namespace Value

mutual

def toJson : Value → Json
  | bool b => .bool b
  | int n => .int n.toInt
  | float x => .ofFloat x
  | str s => .str s
  | link c => .arr [.str c.node, .int c.output.toNat]
  | object fields => .obj (fieldsToJson fields)

def fieldsToJson : List (String × Value) → List (String × Json)
  | [] => []
  | (k, v) :: rest => (k, toJson v) :: fieldsToJson rest

end

/-- A connection is written as a pair. -/
def linkOfJson? (node output : Json) : Option Value := do
  pure (link ⟨← node.asString?, ← output.asUInt32?⟩)

mutual

def ofJson? : Json → Option Value
  | .bool b => some (bool b)
  | .int n =>
    if Int64.minValue.toInt ≤ n ∧ n ≤ Int64.maxValue.toInt then some (int (Int64.ofInt n))
    else some (float (Float.ofInt n))
  | .float x => some (float x)
  | .str s => some (str s)
  | .arr [node, output] => linkOfJson? node output
  | .obj fields => (fieldsOfJson? fields).map fun l => object (Table.ofList l).entries
  | _ => none

def fieldsOfJson? : List (String × Json) → Option (List (String × Value))
  | [] => some []
  | (k, j) :: rest => do
    let v ← ofJson? j
    let more ← fieldsOfJson? rest
    pure ((k, v) :: more)

end

end Value

namespace Node

/-- The fields of a node, each with its value if it has one. -/
def fields (n : Node) : List (String × Option Json) :=
  [ ("class_type", some (.str n.classType)),
    ("inputs", some (.obj (n.inputs.mapValues fun _ v => v.toJson).entries)),
    ("_meta", n.title.map fun t => .obj [("title", .str t)]) ]

def toJson (n : Node) : Json :=
  .ofFields n.fields

/-- The title is the one field of a node's display data. -/
def titleOfJson? (j : Json) : Option String := do
  let f ← j.fieldsOf? ["title"] 1
  f.required "title" Json.asString?

def ofJson? (j : Json) : Option Node := do
  let f ← j.fieldsOf? ["class_type", "inputs", "_meta"] 3
  pure
    { classType := ← f.required "class_type" Json.asString?
      inputs := ← f.required "inputs" (Json.asTable? Value.ofJson?)
      title := ← f.optional "_meta" titleOfJson? }

end Node

namespace Graph

def toJson (g : Graph) : Json :=
  .obj (g.mapValues fun _ n => n.toJson).entries

def ofJson? : Json → Option Graph :=
  Json.asTable? Node.ofJson?

end Graph

end Renderflow
