import Renderflow.Error
import Renderflow.Text.Split

/-!
# Model selections

A selection is a file name, after the key of a family and a colon or on its own. On its
own, the family is inferred from the extension and from hints in the path.
-/

namespace Renderflow

/-- A model file and the family it is used as. -/
structure Model where
  family : Family
  filename : String
  /-- The family was inferred from the file name. -/
  inferred : Bool
  deriving DecidableEq, Repr

namespace Model

/-- The selection with an explicit family. -/
def selection (m : Model) : String :=
  m.family.tag ++ ": " ++ m.filename

def inferenceWarning (m : Model) : Option String :=
  if m.inferred then
    some ("Model '" ++ m.filename ++ "' has no family prefix; assuming " ++ m.family.tag ++ ".")
  else none

/-- The text after the last dot, in lower case. -/
def extension (filename : String) : String :=
  match Text.cutLast? '.' filename with
  | some (_, ext) => Text.lower ext
  | none => ""

/-- Words in a path that tell the family, in the order in which they are tried. -/
def hints : List (String × Family) :=
  [("qwen", .qwen), ("auraflow", .qwen), ("wan", .wan)]

/-- Whether a part of a path begins with a hint, or holds it after a dash or underscore. -/
def hasHint (part : String) (hint : String) : Bool :=
  Text.startsWith part hint || Text.contains part ("_" ++ hint) || Text.contains part ("-" ++ hint)

def hinted? (part : String) : Option Family :=
  (hints.find? fun h => hasHint part h.1).map Prod.snd

def isSeparator (c : Char) : Bool :=
  c == '/' || c == '\\'

/-- The family told by the last part of a path with a hint. -/
def hintedPath? (filename : String) : Option Family :=
  (Text.splitBy isSeparator (Text.lower filename).toList).reverse.findSome? fun part =>
    hinted? (String.ofList part)

/-- The family of a file name without an explicit one. -/
def inferFamily (filename : String) : Except ResourceError Family :=
  match extension filename with
  | "gguf" | "sft" => .ok .flux
  | "safetensors" | "ckpt" | "pth" => .ok ((hintedPath? filename).getD .sdxl)
  | _ => .error (.unrecognizedModel filename)

/-- The family and file name of a selection whose text before the first colon is a key. -/
def explicit? (selection : String) : Option (Family × String) := do
  let (key, rest) ← Text.cutFirst? ':' selection
  pure (← Family.ofKey? key, Text.trim rest)

/-- The model that a selection names. -/
def resolve (text : String) : Except ResourceError Model :=
  let selection := Text.trim text
  if selection.isEmpty then .error .noModelSelected
  else match explicit? selection with
    | some (family, filename) =>
      if filename.isEmpty then .error .noModelSelected
      else .ok { family, filename, inferred := false }
    | none => do
      let family ← inferFamily selection
      .ok { family, filename := selection, inferred := true }

/-- A loader of quantized diffusion models. -/
def quantizedLoader (title filename : String) : Node :=
  .of "UnetLoaderGGUF" title [("unet_name", .str filename)]

/-- A loader of diffusion models. -/
def diffusionLoader (title filename : String) : Node :=
  .of "UNETLoader" title [("unet_name", .str filename), ("weight_dtype", .str "default")]

/-- A loader of checkpoints, which hold the text encoders and the decoder too. -/
def checkpointLoader (title filename : String) : Node :=
  .of "CheckpointLoaderSimple" title [("ckpt_name", .str filename)]

/-- The node that loads a model. -/
def loader (m : Model) : Except ResourceError Node :=
  match m.family, extension m.filename with
  | .flux, "gguf" | .wan, "gguf" => .ok (quantizedLoader "Unet Loader (GGUF)" m.filename)
  | .flux, "safetensors" | .flux, "sft" | .wan, "safetensors" =>
    .ok (diffusionLoader "Load Diffusion Model" m.filename)
  | .sdxl, "safetensors" | .sdxl, "ckpt" => .ok (checkpointLoader "Load Checkpoint" m.filename)
  | .qwen, "safetensors" | .qwen, "ckpt" =>
    .ok (checkpointLoader "Load Qwen Checkpoint" m.filename)
  | family, _ => .error (.unsupportedExtension family m.filename)

/-- The graph of the loader alone. -/
def loaderGraph (selection node : String) : Except ResourceError Graph := do
  let m ← resolve selection
  .ok (Table.empty.insert node (← m.loader))

end Model

end Renderflow
