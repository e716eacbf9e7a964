import Renderflow.Graph.Codec
import Renderflow.Job.Context
import Renderflow.Job.Details
import Renderflow.OutputPath

/-!
# Plans

A job is planned as a list of bindings, each an edit of the template together with what the
record of the job notes about it. Compiling the plan applies the bindings in order.
-/

namespace Renderflow

/-- An edit of a graph, and the entry that the record of the job gets for it. -/
structure Binding where
  edit : Edit
  note : Option (String × Json) := none

namespace Binding

/-- Overwrites an input of the template and notes its value. -/
def set (node input : String) (value : Value) : Binding :=
  { edit := .setInput node input value
    note := some (node ++ "." ++ input, value.toJson) }

def connect (node input source : String) (output : UInt32) : Binding :=
  { edit := .connect node input source output }

/-- Puts a loader in the place of a node and notes the file that it loads. -/
def loader (node : String) (replacement : Node) (input filename : String) : Binding :=
  { edit := .replaceNode node replacement
    note := some (node ++ "." ++ input, .str filename) }

def silent (edit : Edit) : Binding :=
  { edit }

end Binding

/-- A graph on the way from its template to the job, with the notes taken so far. -/
structure Draft where
  graph : Graph
  notes : Table Json := .empty

namespace Draft

def bind (d : Draft) (b : Binding) : Except GraphError Draft := do
  let graph ← d.graph.apply b.edit
  .ok
    { graph
      notes := match b.note with
        | some (key, value) => d.notes.insert key value
        | none => d.notes }

def bindAll (d : Draft) (bs : List Binding) : Except GraphError Draft :=
  bs.foldlM bind d

end Draft

/-- A job whose request is settled. The details lack the notes of the bindings. -/
structure Plan where
  template : Graph
  bindings : List Binding
  details : JobDetails
  message : String

/-- A job that is ready to be sent to the engine. -/
structure Compiled where
  graph : Graph
  details : JobDetails
  message : String

def Plan.compile (p : Plan) : Except CompileError Compiled := do
  let draft ← Draft.bindAll { graph := p.template } p.bindings
  .ok
    { graph := draft.graph
      details := { p.details with parametersUsed := draft.notes }
      message := p.message }

/-! ## Bindings by role -/

namespace ModeSpec

/-- The bindings of a role that the mode may lack. -/
def ifRole (role : Option String) (bindings : String → List Binding) : List Binding :=
  match role with
  | some node => bindings node
  | none => []

def modelBindings (s : ModeSpec) (m : Model) : Except ResourceError (List Binding) := do
  .ok [.loader s.modelLoader (← m.loader) "model" m.filename]

/-- The loader of the second stage, unless the file name is blank. -/
def secondaryBindings (s : ModeSpec) (family : Family) (filename : Option String) :
    Except ResourceError (List Binding) :=
  match s.secondaryLoader, filename.bind Text.nonBlank? with
  | some node, some filename => do
    let m : Model := { family, filename, inferred := false }
    .ok [.loader node (← m.loader) "model" filename]
  | _, _ => .ok []

/-- Wires the LoRA node to the loaders. A checkpoint holds its text encoder too. -/
def loraBindings (s : ModeSpec) (family : Family) : Except InternalError (List Binding) :=
  match s.lora with
  | none => .ok []
  | some lora =>
    match family with
    | .flux | .wan => do
      let clip ← s.require "CLIP loader" s.clipLoader
      .ok [.connect lora "model" s.modelLoader 0, .connect lora "clip" clip 0]
    | .sdxl | .qwen =>
      .ok [.connect lora "model" s.modelLoader 0, .connect lora "clip" s.modelLoader 1]

/-- The configured text encoders of Flux, if the engine has both. -/
def fluxClipBindings (s : ModeSpec) (family : Family) (settings : Settings) : List Binding :=
  match family, s.clipLoader, settings.fluxClipT5, settings.fluxClipL with
  | .flux, some node, some t5, some l =>
    if settings.available.hasClip t5 && settings.available.hasClip l then
      [.set node "clip_name1" (.str t5), .set node "clip_name2" (.str l)]
    else []
  | _, _, _, _ => []

/-- The input of a sampler that takes the seed. -/
def seedInput (template : Graph) (node : String) : Except GraphError String := do
  let n ← template.node node
  .ok (if n.classType == "KSamplerAdvanced" then "noise_seed" else "seed")

def stageBindings (template : Graph) (p : Sampling) (node : String) :
    Except GraphError (List Binding) := do
  .ok
    [.set node (← seedInput template node) (.int p.seed),
      .set node "steps" (.ofUInt32 p.steps),
      .set node "cfg" (.float p.guidance)]

/-- Seed, steps and guidance of every sampler; one stage takes the denoise, two stages the
window of steps that it leaves. -/
def samplerBindings (s : ModeSpec) (template : Graph) (p : Sampling) :
    Except GraphError (List Binding) :=
  match s.initialSampler with
  | some initial => do
    let (start, split) := Sampling.window p.steps p.denoise
    .ok ((← stageBindings template p initial) ++ (← stageBindings template p s.sampler) ++
      [.set initial "start_at_step" (.ofUInt32 start),
        .set initial "end_at_step" (.ofUInt32 split),
        .set s.sampler "start_at_step" (.ofUInt32 split)])
  | none => do
    .ok
      [.set s.sampler (← seedInput template s.sampler) (.int p.seed),
        .set s.sampler "steps" (.ofUInt32 p.steps),
        .set s.sampler "denoise" (.float p.denoise),
        match s.guidance with
        | some node => .set node "guidance" (.float p.guidance)
        | none => .set s.sampler "cfg" (.float p.guidance)]

/-- The size of the latent image, which enters the first sampler. -/
def latentBindings (s : ModeSpec) (family : Family) (ratio : String) (mpSize : Float)
    (batch : UInt32) : Except InternalError (List Binding) := do
  let latent ← s.require "latent" s.latent
  .ok
    [.set latent "aspect_ratio" (.str ratio),
      .set latent "mp_size_float" (.float mpSize),
      .set latent "model_type" (.str family.tag),
      .set latent "batch_size" (.ofUInt32 batch),
      .connect s.firstSampler "latent_image" latent 0]

/-- The source image, whose encoding enters the first sampler. -/
def imageBindings (s : ModeSpec) (location : String) : Except InternalError (List Binding) := do
  let load ← s.require "load image" s.loadImage
  .ok (.set load "url_or_path" (.str location) ::
    ifRole s.encode fun encode => [.connect s.firstSampler "latent_image" encode 0])

/-- The prompts. A mode without a node for the negative prompt drops it. -/
def promptBindings (s : ModeSpec) (positive negative : String) : List Binding :=
  .set s.positivePrompt "text" (.str positive) ::
    ifRole s.negativePrompt fun node => [.set node "text" (.str negative)]

def styleBindings (s : ModeSpec) (style : ResolvedStyle) : List Binding :=
  ifRole s.lora fun node => (style.edits node).map .silent

/-- The name of the output files. -/
def outputBindings (s : ModeSpec) (stem : String) : List Binding :=
  [.set s.save "filename_prefix" (.str stem)]

/-- The negative prompt as the record has it: absent where the mode drops it. -/
def recordedNegative (s : ModeSpec) (negative : String) : Option String :=
  s.negativePrompt.map fun _ => negative

end ModeSpec

end Renderflow
