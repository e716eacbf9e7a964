import Renderflow.Config.Variable
import Renderflow.Engine.Endpoint
import Renderflow.Settings
import Renderflow.Style
import Renderflow.Toml.Reader

/-!
# Configuration

A configuration comes in layers: the file of the system, the file of the working directory
or one that is named, and environment variables. A field of a later layer replaces the field
of an earlier one; a file that is missing is an empty layer.
-/

namespace Renderflow

namespace Json

mutual

/-- A value laid over another one. Objects are laid over objects field by field. -/
def overlay (below : Json) : Json → Json
  | obj fields =>
    match below with
    | obj old => obj (overlayFields old fields)
    | _ => obj fields
  | other => other

def overlayFields (below : List (String × Json)) : List (String × Json) → List (String × Json)
  | [] => below
  | (k, j) :: rest =>
    let j := match below.lookup k with
      | some old => overlay old j
      | none => j
    overlayFields (Table.put k j below) rest

end

end Json

structure Config where
  engineAddress : String := Endpoint.localAddress
  settings : Settings := {}
  /-- The file of the styles; without one there are no styles. -/
  stylesFile : Option String := none

inductive ConfigError where
  | invalidConfig
  | invalidStyles (file : String)
  deriving DecidableEq, Repr

def ConfigError.message : ConfigError → String
  | invalidConfig => "Invalid configuration"
  | invalidStyles file => "Invalid styles file " ++ file

namespace Config

def ofJson? (j : Json) : Option Config := do
  let base : Config := {}
  let f ← j.fieldsOf? ["comfyui_url", "settings", "styles_file"] 0
  pure
    { engineAddress := ← f.default "comfyui_url" base.engineAddress Json.asString?
      settings := ← f.default "settings" {} Settings.ofJson?
      stylesFile := ← f.optional "styles_file" Json.asString? }

def toJson (c : Config) : Json :=
  .obj [("comfyui_url", .str c.engineAddress), ("settings", c.settings.toJson),
    ("styles_file", .ofOption .str c.stylesFile)]

def systemFile : String := "/etc/tenos/config.toml"

def localFile : String := "config.toml"

/-- The layer of a file. -/
def fileLayer? (read? : String → Option String) (path : String) : Option Json :=
  match read? path with
  | none => some (.obj [])
  | some text => Toml.read? text

/-- The layer of environment variables; a later one is laid over an earlier one. -/
def variableLayer (environment : List (String × String)) : Json :=
  environment.foldl (fun layer v =>
    match Variable.path? v.1 with
    | some path => layer.overlay (Variable.nest path (Variable.ofText v.2))
    | none => layer) (.obj [])

/-- The configuration of a working directory, whose own file another one may replace. Files
are read by the given function. -/
def load (read? : String → Option String) (environment : List (String × String))
    (path : Option String) : Except ConfigError Config :=
  let config := do
    let system ← fileLayer? read? systemFile
    let own ← fileLayer? read? (path.getD localFile)
    ofJson? ((system.overlay own).overlay (variableLayer environment))
  match config with
  | some c => .ok c
  | none => .error .invalidConfig

/-- The styles of a configuration. -/
def styles (c : Config) (read? : String → Option String) : Except ConfigError StyleBook :=
  match c.stylesFile with
  | none => .ok Table.empty
  | some file =>
    match (fileLayer? read? file).bind StyleBook.ofJson? with
    | some book => .ok book
    | none => .error (.invalidStyles file)

end Config

end Renderflow
