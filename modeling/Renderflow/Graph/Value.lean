import Renderflow.Json.Basic

/-!
# Input values

What an input of a node can hold: a constant, a connection to an output of another node,
or the fields of a structured widget.
-/

namespace Renderflow

/-- An output of a node. -/
structure Connection where
  node : String
  output : UInt32
  deriving DecidableEq, Repr

/-- The fields of an object stand in key order. -/
inductive Value where
  | bool (value : Bool)
  | int (value : Int64)
  | float (value : Float)
  | str (value : String)
  | link (target : Connection)
  | object (fields : List (String × Value))

namespace Value

instance : Inhabited Value := ⟨bool false⟩

/-- A word of 32 bits as an input. -/
def ofUInt32 (n : UInt32) : Value :=
  int (Int64.ofNat n.toNat)

def link? : Value → Option Connection
  | link c => some c
  | _ => none

def asString? : Value → Option String
  | str s => some s
  | _ => none

def asBool? : Value → Option Bool
  | bool b => some b
  | _ => none

def asInt? : Value → Option Int64
  | int n => some n
  | _ => none

/-- The number of a numeric input, whole numbers widened. -/
def asFloat? : Value → Option Float
  | int n => some (Float.ofInt n.toInt)
  | float x => some x
  | _ => none

def object? : Value → Option (List (String × Value))
  | object fields => some fields
  | _ => none

end Value

end Renderflow
