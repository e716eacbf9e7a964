import Renderflow.Decimal.Binary
import Renderflow.Table

/-!
# JSON values

A value keeps the fields of an object in the order in which they were written, repeated
keys included, because a record refuses a repeated field while a map keeps the last one.
Whole numbers and numbers with a fraction or an exponent are different values.
-/

namespace Renderflow

inductive Json where
  | null
  | bool (value : Bool)
  | int (value : Int)
  | float (value : Float)
  | str (value : String)
  | arr (items : List Json)
  | obj (fields : List (String × Json))

namespace Json

instance : Inhabited Json := ⟨null⟩

mutual

/-- The value with the fields of every object in key order, the last of a repeated key. -/
def canonical : Json → Json
  | arr items => arr (canonicalItems items)
  | obj fields => obj (Table.ofList (canonicalFields fields)).entries
  | other => other

def canonicalItems : List Json → List Json
  | [] => []
  | j :: rest => canonical j :: canonicalItems rest

def canonicalFields : List (String × Json) → List (String × Json)
  | [] => []
  | (k, j) :: rest => (k, canonical j) :: canonicalFields rest

end

/-- The last field of an object with the given key. -/
def get? (j : Json) (key : String) : Option Json :=
  match j with
  | obj fields => fields.reverse.lookup key
  | _ => none

/-- A double as a number; infinities and NaN, which JSON does not have, as null. -/
def ofFloat (x : Float) : Json :=
  if Decimal.isFinite x then float x else null

def ofOption {α : Type} (encode : α → Json) : Option α → Json
  | none => null
  | some a => encode a

def strings (l : List String) : Json :=
  arr (l.map str)

/-- An object of those fields that have a value. -/
def ofFields (fields : List (String × Option Json)) : Json :=
  obj (fields.filterMap fun f => f.2.map fun v => (f.1, v))

end Json

end Renderflow
