/-!
# Flags

A flag has a long name and perhaps a letter. It takes no value, one value, or one value each
time it is given; a flag that takes values takes what follows it, or what an equals sign ties
to it. Flags act on the arguments read so far.
-/

namespace Renderflow.CommandLine

/-- Why a command line is not taken for a job. -/
inductive Stop where
  /-- Help is asked for. -/
  | help
  /-- The version is asked for. -/
  | version
  /-- Nothing is asked for. -/
  | nothing
  | missingCommand
  | unknownCommand
  | unknownArgument
  | missingArgument
  | missingValue
  | invalidValue
  /-- A flag without values is given one. -/
  | unexpectedValue
  /-- A flag is given twice. -/
  | repeated
  deriving DecidableEq, Repr

namespace Stop

def isError : Stop → Bool
  | help | version => false
  | _ => true

end Stop

variable {α β : Type}

inductive Action (α : Type) where
  | mark (set : α → α)
  | once (set : String → α → Except Stop α)
  | each (set : String → α → α)
  | stop (reason : Stop)

namespace Action

def takesValue : Action α → Bool
  | mark _ | stop _ => false
  | once _ | each _ => true

/-- A value that a reader has to accept. -/
def parsed (read? : String → Option β) (set : β → α → α) : Action α :=
  once fun text args =>
    match read? text with
    | some value => .ok (set value args)
    | none => .error .invalidValue

def text (set : String → α → α) : Action α :=
  once fun text args => .ok (set text args)

/-- A path, which is not empty. -/
def path (set : String → α → α) : Action α :=
  once fun text args => if text.isEmpty then .error .missingValue else .ok (set text args)

/-- The same action on a part of larger arguments. -/
def within (get : β → α) (put : α → β → β) : Action α → Action β
  | mark set => mark fun args => put (set (get args)) args
  | once set => once fun text args => (set text (get args)).map fun part => put part args
  | each set => each fun text args => put (set text (get args)) args
  | stop reason => stop reason

end Action

structure Flag (α : Type) where
  name : String
  letter : Option Char := none
  action : Action α

end Renderflow.CommandLine
