import Renderflow.CommandLine.Reader
import Renderflow.Decimal.Reading
import Renderflow.Image.Spec
import Renderflow.Job.Request

/-!
# Command lines

A command line names one of five commands, which are the five kinds of jobs. Three flags
stand before the command as well as after it, and count more after it.
-/

namespace Renderflow.CommandLine

/-- What a command line is read into, for requests of a kind. -/
structure Args (ρ : Type) where
  config : Option String := none
  output : Option String := none
  submit : Bool := false
  /-- The file with the details of the source job. -/
  source : Option String := none
  request : ρ

/-- A command line that asks for a job. -/
structure Invocation where
  /-- The configuration file in place of the one in the working directory. -/
  config : Option String
  /-- The file that takes the graph, in place of the standard output. -/
  output : Option String
  /-- Whether the graph is to be queued on an engine. -/
  submit : Bool
  /-- The file with the details of the source job. -/
  source : Option String
  request : JobRequest

variable {ρ : Type}

/-! ## Values -/

/-- Reads a word of 32 bits as a number with a sign. -/
def uint32? (text : String) : Option UInt32 :=
  (Text.int64? text).bind fun n =>
    if 0 ≤ n ∧ n < 0x100000000 then some (UInt32.ofNat n.toInt.toNat) else none

def textFlag (name : String) (set : String → ρ → ρ) : Flag ρ :=
  { name, action := .text set }

def countFlag (name : String) (set : UInt32 → ρ → ρ) : Flag ρ :=
  { name, action := .parsed uint32? set }

def floatFlag (name : String) (set : Float → ρ → ρ) : Flag ρ :=
  { name, action := .parsed Decimal.float? set }

def seedFlag (set : Int64 → ρ → ρ) : Flag ρ :=
  { name := "seed", action := .parsed Text.int64? set }

/-! ## Flags of every command -/

def helpFlag : Flag (Args ρ) :=
  { name := "help", letter := some 'h', action := .stop .help }

def versionFlag : Flag (Args ρ) :=
  { name := "version", letter := some 'V', action := .stop .version }

def sharedFlags : List (Flag (Args ρ)) :=
  [ { name := "config", letter := some 'c',
      action := .path fun file args => { args with config := some file } },
    { name := "output", letter := some 'o',
      action := .path fun file args => { args with output := some file } },
    { name := "submit", action := .mark fun args => { args with submit := true } },
    helpFlag ]

def sourceFlag : Flag (Args ρ) :=
  { name := "source", action := .path fun file args => { args with source := some file } }

/-! ## Flags of single commands -/

def generationFlags : List (Flag GenerationRequest) :=
  [ textFlag "negative" fun t r => { r with negativePrompt := some t },
    textFlag "model" fun t r => { r with model := some t },
    textFlag "style" fun t r => { r with style := some t },
    textFlag "ar" fun t r => { r with aspectRatio := some t },
    textFlag "img" fun t r => { r with image := some t },
    floatFlag "mp" fun x r => { r with mpSize := some x },
    countFlag "batch" fun n r => { r with batchSize := some n },
    seedFlag fun n r => { r with seed := some n },
    countFlag "steps" fun n r => { r with steps := some n },
    floatFlag "guidance" fun x r => { r with guidance := some x } ]

def variationFlags : List (Flag VariationRequest) :=
  [ countFlag "index" fun n r => { r with imageIndex := n },
    { name := "strong", action := .mark fun r => { r with strength := .strong } },
    textFlag "prompt" fun t r => { r with prompt := some t },
    textFlag "negative" fun t r => { r with negativePrompt := some t },
    textFlag "style" fun t r => { r with style := some t },
    textFlag "model" fun t r => { r with model := some t },
    seedFlag fun n r => { r with seed := some n },
    countFlag "steps" fun n r => { r with steps := some n },
    floatFlag "guidance" fun x r => { r with guidance := some x } ]

def upscaleFlags : List (Flag UpscaleRequest) :=
  [ countFlag "index" fun n r => { r with imageIndex := n },
    textFlag "style" fun t r => { r with style := some t },
    textFlag "model" fun t r => { r with model := some t },
    seedFlag fun n r => { r with seed := some n } ]

def editFlags : List (Flag EditRequest) :=
  [ { name := "image", action := .each fun t r => { r with images := r.images ++ [t] } },
    { name := "family", action := .parsed Family.ofKey? fun f r => { r with family := some f } },
    textFlag "ar" fun t r => { r with aspectRatio := some t },
    { name := "size", action := .parsed Image.size? fun s r => { r with imageSize := some s } },
    floatFlag "denoise" fun x r => { r with denoise := some x },
    textFlag "source-id" fun t r => { r with sourceJobId := some t },
    seedFlag fun n r => { r with seed := some n },
    countFlag "steps" fun n r => { r with steps := some n },
    floatFlag "guidance" fun x r => { r with guidance := some x } ]

def animationFlags : List (Flag AnimationRequest) :=
  [ textFlag "motion" fun t r => { r with motionProfile := some t },
    textFlag "resolution" fun t r => { r with resolution := some t },
    countFlag "frames" fun n r => { r with frames := some n },
    seedFlag fun n r => { r with seed := some n } ]

/-! ## Commands -/

/-- What a command reads: its flags, whether it has a source, its word, and which of its
flags must be given besides the word. -/
structure Command (ρ : Type) where
  flags : List (Flag ρ)
  hasSource : Bool := false
  word : String → ρ → ρ
  required : List String := []
  blank : ρ

namespace Command

def grammar (c : Command ρ) : Grammar (Args ρ) :=
  { flags := sharedFlags ++ (if c.hasSource then [sourceFlag] else []) ++
      c.flags.map fun f =>
        { f with action := f.action.within Args.request fun request args => { args with request } }
    word := some fun text args => { args with request := c.word text args.request } }

def read (c : Command ρ) (args : List String) : Except Stop (Args ρ) := do
  let (s, _) ← CommandLine.read c.grammar { args := { request := c.blank } } args
  let s ← s.settle
  if s.hasWord && c.required.all s.given.contains then .ok s.args else .error .missingArgument

end Command

def generate : Command GenerationRequest :=
  { flags := generationFlags, word := fun t r => { r with prompt := t }, blank := {} }

def vary : Command VariationRequest :=
  { flags := variationFlags, hasSource := true, word := fun t r => { r with image := t }
    blank := { imageIndex := 1 } }

def upscale : Command UpscaleRequest :=
  { flags := upscaleFlags, hasSource := true, word := fun t r => { r with image := t }
    blank := { imageIndex := 1 } }

def edit : Command EditRequest :=
  { flags := editFlags, word := fun t r => { r with instruction := t }, required := ["image"]
    blank := {} }

def animate : Command AnimationRequest :=
  { flags := animationFlags, hasSource := true, word := fun t r => { r with image := t }
    required := ["source"], blank := {} }

def commandNames : List String :=
  ["generate", "vary", "upscale", "edit", "animate", "help"]

def top : Grammar (Args Unit) :=
  { flags := versionFlag :: sharedFlags, commands := commandNames }

/-- Help takes the name of one command, or none. -/
def help : List String → Stop
  | [] => .help
  | [name] => if commandNames.contains name then .help else .unknownCommand
  | _ => .unknownCommand

/-- Arguments after a command, with a request of any kind. -/
def Args.map {σ : Type} (f : ρ → σ) (a : Args ρ) : Args σ :=
  { a with request := f a.request }

def readCommand (name : String) (args : List String) : Except Stop (Args JobRequest) :=
  match name with
  | "generate" => (generate.read args).map (.map .generation)
  | "vary" => (vary.read args).map (.map .variation)
  | "upscale" => (upscale.read args).map (.map .upscale)
  | "edit" => (edit.read args).map (.map .edit)
  | "animate" => (animate.read args).map (.map .animation)
  | _ => .error (help args)

namespace Invocation

/-- Reads the arguments of the program. -/
def read (args : List String) : Except Stop Invocation := do
  let (s, command) ← CommandLine.read top { args := { request := () } } args
  match command with
  | none =>
    let s ← s.settle
    .error (if s.given.isEmpty then .nothing else .missingCommand)
  | some (name, rest) =>
    let own ← readCommand name rest
    let s ← s.settle
    .ok
      { config := own.config.or s.args.config
        output := own.output.or s.args.output
        submit := own.submit || s.args.submit
        source := own.source
        request := own.request }

end Invocation

end Renderflow.CommandLine
