import Renderflow.CommandLine.Flag
import Renderflow.Text.Split

/-!
# Reading arguments

Arguments are read from left to right. A flag whose value follows it is carried out when the
next argument is understood, or at the end; until then a fault of the next argument comes
before its own.
-/

namespace Renderflow.CommandLine

variable {α : Type}

/-- What a command accepts: flags, and either one word or the names of commands. -/
structure Grammar (α : Type) where
  flags : List (Flag α)
  word : Option (String → α → α) := none
  commands : List String := []

namespace Grammar

def named? (g : Grammar α) (name : String) : Option (Flag α) :=
  g.flags.find? fun f => f.name == name

def lettered? (g : Grammar α) (letter : Char) : Option (Flag α) :=
  g.flags.find? fun f => f.letter == some letter

end Grammar

/-- How far arguments have been read. -/
structure State (α : Type) where
  args : α
  /-- The names of the flags that have been carried out. -/
  given : List String := []
  /-- A flag to be carried out, with its value if it has come. -/
  waiting : Option (Flag α × Option String) := none
  hasWord : Bool := false
  /-- Whether two hyphens have ended the flags. -/
  ended : Bool := false

namespace State

def record (s : State α) (f : Flag α) (args : α) : State α :=
  { s with args, given := f.name :: s.given }

/-- Carries out a flag. -/
def act (s : State α) (f : Flag α) (value : Option String) : Except Stop (State α) :=
  match f.action, value with
  | .stop reason, _ => .error reason
  | .mark set, _ =>
    if s.given.contains f.name then .error .repeated else .ok (s.record f (set s.args))
  | .once set, some text =>
    if s.given.contains f.name then .error .repeated
    else (set text s.args).map (s.record f)
  | .each set, some text => .ok (s.record f (set text s.args))
  | .once _, none => .error .missingValue
  | .each _, none => .error .missingValue

/-- Carries out the waiting flag. -/
def settle (s : State α) : Except Stop (State α) :=
  match s.waiting with
  | none => .ok s
  | some (f, value) => { s with waiting := none }.act f value

def wait (s : State α) (f : Flag α) : Except Stop (State α) :=
  s.settle.map fun s => { s with waiting := some (f, none) }

def actNow (s : State α) (f : Flag α) (value : Option String) : Except Stop (State α) := do
  (← s.settle).act f value

def expectsValue (s : State α) : Bool :=
  match s.waiting with
  | some (_, none) => true
  | _ => false

/-- Reads a flag by its name, with the value that is tied to it. -/
def long (s : State α) (g : Grammar α) (name : String) (value : Option String) :
    Except Stop (State α) :=
  match g.named? name with
  | none => .error .unknownArgument
  | some f =>
    match f.action.takesValue, value with
    | false, some _ => .error .unexpectedValue
    | true, none => s.wait f
    | _, value => s.actNow f value

/-- Reads flags by their letters. What follows the letter of a flag with a value is its
value. -/
def short (s : State α) (g : Grammar α) : List Char → Except Stop (State α)
  | [] => .ok s
  | c :: rest =>
    match g.lettered? c with
    | none => .error .unknownArgument
    | some f =>
      if f.action.takesValue then
        match rest with
        | [] => s.wait f
        | '=' :: value => s.actNow f (some (String.ofList value))
        | value => s.actNow f (some (String.ofList value))
      else
        match s.actNow f none with
        | .ok s => short s g rest
        | .error e => .error e

/-- Reads an argument that is no flag and no value. -/
def word (s : State α) (g : Grammar α) (text : String) : Except Stop (State α) :=
  match g.word with
  | some set =>
    if s.hasWord then .error .unknownArgument
    else s.settle.map fun s => { s with args := set text s.args, hasWord := true }
  | none =>
    .error (if s.ended && g.commands.contains text then .unknownArgument else .unknownCommand)

/-- Reads an argument that names no command. -/
def argument (s : State α) (g : Grammar α) (text : String) : Except Stop (State α) :=
  if s.ended then s.word g text
  else match text.toList with
    | ['-', '-'] => .ok { s with ended := true }
    | '-' :: '-' :: rest =>
      match Text.cutFirst? '=' (String.ofList rest) with
      | some (name, value) => s.long g name (some value)
      | none => s.long g (String.ofList rest) none
    | '-' :: c :: rest => s.short g (c :: rest)
    | _ =>
      match s.waiting with
      | some (f, none) => .ok { s with waiting := some (f, some text) }
      | _ => s.word g text

/-- Whether an argument stands where the name of a command is understood, and is one. -/
def namesCommand (s : State α) (g : Grammar α) (text : String) : Bool :=
  !s.ended && !s.expectsValue && g.commands.contains text

end State

/-- Reads arguments up to the name of a command, which is given back with the arguments
after it, or to their end. -/
def read (g : Grammar α) (s : State α) :
    List String → Except Stop (State α × Option (String × List String))
  | [] => .ok (s, none)
  | arg :: rest =>
    if s.namesCommand g arg then .ok (s, some (arg, rest))
    else
      match s.argument g arg with
      | .ok s => read g s rest
      | .error e => .error e

end Renderflow.CommandLine
