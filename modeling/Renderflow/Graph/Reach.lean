import Renderflow.Graph.Basic

/-!
# Reachability

What a node depends on through its connections, and the connections that lead to no node.
-/

namespace Renderflow.Graph

/-- The nodes that a node takes its connected inputs from. -/
def sources (g : Graph) (id : String) : List String :=
  match g.find? id with
  | none => []
  | some n => n.connections.map fun c => c.2.node

/-- The nodes that a walk has not visited. -/
def unvisited (g : Graph) (seen : List String) : List String :=
  g.keys.filter fun id => !seen.contains id

/-- A node is unvisited until it is visited. -/
theorem length_unvisited_lt {g : Graph} {id : String} {seen : List String} (h : g.contains id)
    (hid : id ∉ seen) : (g.unvisited (id :: seen)).length < (g.unvisited seen).length := by
  obtain ⟨n, hn⟩ := Option.isSome_iff_exists.1 h
  obtain ⟨before, after, hentries, -⟩ := List.lookup_eq_some_iff.1 hn
  have hkey : id ∈ g.unvisited seen := by
    simp [unvisited, Table.keys, hentries, hid]
  have hfewer : g.unvisited (id :: seen) = (g.unvisited seen).filter fun k => k != id := by
    simp only [unvisited, List.filter_filter]
    refine List.filter_congr fun k _ => ?_
    by_cases hk : k = id <;> simp [hk]
  rw [hfewer]
  exact List.length_filter_lt_length_iff_exists.2 ⟨id, hkey, by simp⟩

/-- Walks upstream from each node of a list, in depth before the next one. A node is visited
once, and the order in which it is left for its sources is given. -/
def visit (g : Graph) (sources : String → List String) (todo seen : List String) : List String :=
  match todo with
  | [] => seen
  | id :: todo =>
    if g.contains id ∧ id ∉ seen then g.visit sources (sources id ++ todo) (id :: seen)
    else g.visit sources todo seen
termination_by ((g.unvisited seen).length, todo.length)
decreasing_by
  · next fresh => exact Prod.Lex.left _ _ (length_unvisited_lt fresh.1 fresh.2)
  · exact Prod.Lex.right _ (Nat.lt_succ_self _)

/-- The nodes that a node depends on, itself included, in key order. -/
def dependencies (g : Graph) (id : String) : List String :=
  let seen := g.visit g.sources [id] []
  g.keys.filter seen.contains

/-- A connection to a node that is not in the graph. -/
structure Dangling where
  node : String
  input : String
  target : String
  deriving DecidableEq, Repr

/-- The dangling connections in the order of their nodes and inputs. -/
def dangling (g : Graph) : List Dangling :=
  g.entries.flatMap fun e =>
    (e.2.connections.filter fun c => !g.contains c.2.node).map fun c =>
      { node := e.1, input := c.1, target := c.2.node }

/-- Why a graph is not sent to an engine: its first dangling connection. -/
def refusal? (g : Graph) : Option String :=
  match g.dangling with
  | [] => none
  | first :: rest =>
    some ("Input `" ++ first.input ++ "` of node `" ++ first.node ++ "` points at missing node `" ++
      first.target ++ "` (" ++ toString (rest.length + 1) ++ " dangling connections)")

end Renderflow.Graph
