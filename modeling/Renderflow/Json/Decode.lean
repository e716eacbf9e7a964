import Renderflow.Json.Basic

/-!
# Decoding JSON values

A number field of a double accepts whole numbers, a whole number field accepts no other
number, and null stands for the absence of an optional field alone.

A record is an object, in which unknown fields are skipped and a repeated field is refused,
or an array of the values of its fields in the order of their declaration.
-/

namespace Renderflow.Json

def asBool? : Json → Option Bool
  | bool b => some b
  | _ => none

def asString? : Json → Option String
  | str s => some s
  | _ => none

/-- A whole number within the two bounds. -/
def within? (low high : Int) : Json → Option Int
  | int n => if low ≤ n ∧ n ≤ high then some n else none
  | _ => none

def asUInt8? (j : Json) : Option UInt8 :=
  (within? 0 (UInt8.size - 1) j).map fun n => UInt8.ofNat n.toNat

def asUInt32? (j : Json) : Option UInt32 :=
  (within? 0 (UInt32.size - 1) j).map fun n => UInt32.ofNat n.toNat

def asUInt64? (j : Json) : Option UInt64 :=
  (within? 0 (UInt64.size - 1) j).map fun n => UInt64.ofNat n.toNat

def asInt64? (j : Json) : Option Int64 :=
  (within? Int64.minValue.toInt Int64.maxValue.toInt j).map Int64.ofInt

def asFloat? : Json → Option Float
  | int n => some (Float.ofInt n)
  | float x => some x
  | _ => none

def asList? {α : Type} (decode : Json → Option α) : Json → Option (List α)
  | arr items => items.mapM decode
  | _ => none

def asStrings? : Json → Option (List String) :=
  asList? asString?

/-- The name of a case without content: a string, or an object that maps it to null. -/
def asCase? : Json → Option String
  | str s => some s
  | obj [(s, null)] => some s
  | _ => none

/-- Accepts null for an absent value. -/
def asOption? {α : Type} (decode : Json → Option α) : Json → Option (Option α)
  | null => some none
  | j => (decode j).map some

/-- The entries of a map, in key order, the last of a repeated key. -/
def asTable? {α : Type} (decode : Json → Option α) : Json → Option (Table α)
  | obj fields =>
    (fields.mapM fun f => (decode f.2).map fun v => (f.1, v)).map Table.ofList
  | _ => none

/-- The declared fields of a record that have a value, each once. -/
abbrev Fields := List (String × Json)

/-- The fields of a record with the given field names. In an array the first `least`
values may not be left out. -/
def fieldsOf? (names : List String) (least : Nat) : Json → Option Fields
  | obj fields =>
    let known := fields.filter fun f => names.contains f.1
    if (known.map Prod.fst).Nodup then some known else none
  | arr items =>
    if least ≤ items.length ∧ items.length ≤ names.length then some (names.zip items) else none
  | _ => none

namespace Fields

variable {α : Type}

/-- A field that has to be present. -/
def required (f : Fields) (name : String) (decode : Json → Option α) : Option α :=
  (f.lookup name).bind decode

/-- A field that takes a default when it is absent. -/
def default (f : Fields) (name : String) (fallback : α) (decode : Json → Option α) : Option α :=
  match f.lookup name with
  | none => some fallback
  | some j => decode j

/-- A field that may be absent or null. -/
def optional (f : Fields) (name : String) (decode : Json → Option α) : Option (Option α) :=
  f.default name none (asOption? decode)

end Fields

end Renderflow.Json
