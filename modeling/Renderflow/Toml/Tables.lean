import Renderflow.Json.Basic

/-!
# The tables of a document

A document builds its tables piece by piece. A header may complete a table that headers of
tables below it have implied, and a dotted key may complete a table that dotted keys have
made; no table is opened twice, and no value is replaced.
-/

namespace Renderflow.Toml

/-- What has made a table. -/
inductive Origin where
  | header
  /-- The header of a table below it. -/
  | implied
  | dotted
  deriving DecidableEq, Repr

inductive Item where
  | value (json : Json)
  | table (origin : Origin) (entries : List (String × Item))
  /-- Tables whose headers stand in double brackets. -/
  | tables (list : List (List (String × Item)))

abbrev Entries := List (String × Item)

mutual

def Item.toJson : Item → Json
  | .value json => json
  | .table _ entries => .obj (entriesToJson entries)
  | .tables list => .arr (tablesToJson list)

def entriesToJson : List (String × Item) → List (String × Json)
  | [] => []
  | (key, item) :: rest => (key, item.toJson) :: entriesToJson rest

def tablesToJson : List (List (String × Item)) → List Json
  | [] => []
  | entries :: rest => .obj (entriesToJson entries) :: tablesToJson rest

end

/-- Puts an item in the place of the one with its key, or at the end. -/
def put (key : String) (item : Item) : Entries → Entries
  | [] => [(key, item)]
  | (k, old) :: rest => if k = key then (key, item) :: rest else (k, old) :: put key item rest

/-- Changes the table at the end of a path. Tables that are missing on the way are made, and
a list of tables leads into its last one. A dotted key does not lead into a table that has a
header. -/
def change (made : Origin) (f : Origin → Entries → Option Entries) :
    List String → Origin → Entries → Option Entries
  | [], origin, entries => f origin entries
  | key :: path, _, entries =>
    match entries.lookup key with
    | none => do
      let below ← change made f path made []
      some (put key (.table made below) entries)
    | some (.value _) => none
    | some (.table origin below) =>
      if made = .dotted ∧ origin = .header then none
      else do
        let below ← change made f path origin below
        some (put key (.table origin below) entries)
    | some (.tables list) => do
      let last ← list.getLast?
      let below ← change made f path .header last
      some (put key (.tables (list.dropLast ++ [below])) entries)

/-- A key with the tables that lead to it, and its value. -/
structure Assignment where
  path : List String
  key : String
  value : Json

/-- Adds a new value. Dotted keys add to no table but those that dotted keys have made. -/
def Assignment.apply (a : Assignment) (entries : Entries) : Option Entries :=
  change .dotted (fun origin entries =>
    if a.path ≠ [] ∧ origin ≠ .dotted then none
    else if (entries.lookup a.key).isSome then none
    else some (put a.key (.value a.value) entries)) a.path .header entries

def assign (assignments : List Assignment) (entries : Entries) : Option Entries :=
  assignments.foldlM (fun entries a => a.apply entries) entries

/-- The table of an expression in braces. -/
def inlineTable? (assignments : List Assignment) : Option Json :=
  (assign assignments []).map fun entries => .obj (entriesToJson entries)

/-- The header of a table, or, in double brackets, of the next table in a list. -/
structure Header where
  inList : Bool
  path : List String
  key : String

structure Section where
  header : Header
  assignments : List Assignment

/-- Adds the table of a section. -/
def Section.apply (s : Section) (entries : Entries) : Option Entries :=
  change .implied (fun _ entries =>
    match s.header.inList, entries.lookup s.header.key with
    | true, none => do
      let table ← assign s.assignments []
      some (put s.header.key (.tables [table]) entries)
    | true, some (.tables list) => do
      let table ← assign s.assignments []
      some (put s.header.key (.tables (list ++ [table])) entries)
    | false, none => do
      let table ← assign s.assignments []
      some (put s.header.key (.table .header table) entries)
    | false, some (.table .implied below) => do
      let table ← assign s.assignments below
      some (put s.header.key (.table .header table) entries)
    | _, _ => none) s.header.path .header entries

end Renderflow.Toml
