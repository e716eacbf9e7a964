import Renderflow.Family
import Renderflow.Graph.Basic

/-!
# Why a job is not compiled

Bad input and missing resources are told to the user as they are. A defect of a template
or of the catalog is not the user's doing, and its message names no detail.
-/

namespace Renderflow

/-- Bad input. -/
inductive ValidationError where
  | invalidAspectRatio (text : String)
  | invalidImageSpec (text : String)
  | strengthOutOfRange (digits : String)
  | invalidImageSource (url contentType : String)
  | unsupportedImageExtension (path : String)
  | unknownStyle (name : String)
  | unknownFamily (key : String)
  | unknownVariationStrength (text : String)
  | unsupportedMode (family : Family) (mode : Mode)
  | invalidImageCount (mode : Mode) (expected : String) (got : Nat)
  deriving DecidableEq, Repr

/-- A model or an image that is missing or cannot be reached. -/
inductive ResourceError where
  | noModelSelected
  | unrecognizedModel (selection : String)
  | unsupportedExtension (family : Family) (filename : String)
  | imageUnreachable (url reason : String)
  | imageNotFound (path : String)
  | imageNotAFile (path : String)
  | noEditModel (family : Family)
  deriving DecidableEq, Repr

/-- A defect of a template or of the catalog. -/
inductive InternalError where
  | missingNode (node : String)
  | missingInput (node input : String)
  | template (name reason : String)
  deriving DecidableEq, Repr

inductive CompileError where
  | validation (cause : ValidationError)
  | resource (cause : ResourceError)
  | internal (cause : InternalError)
  deriving DecidableEq, Repr

def ValidationError.message : ValidationError → String
  | invalidAspectRatio text => "Invalid AR format '" ++ text ++ "'. Use W:H (e.g., 16:9)."
  | invalidImageSpec text =>
    "Invalid --img format '" ++ text ++ "'. Usage: '--img [strength 0-100] [URL_or_FilePath]'."
  | strengthOutOfRange digits =>
    "Image strength '" ++ digits ++ "' must be an integer between 0 and 100."
  | invalidImageSource url contentType =>
    "The URL '" ++ url ++ "' does not point to an image (Content-Type: " ++ contentType ++ ")."
  | unsupportedImageExtension path =>
    "File '" ++ path ++ "' does not have a common image extension."
  | unknownStyle name => "Unknown style '" ++ name ++ "'."
  | unknownFamily key => "Unknown model family '" ++ key ++ "'."
  | unknownVariationStrength text =>
    "Unknown variation strength '" ++ text ++ "'. Use weak or strong."
  | unsupportedMode family mode => family.key ++ " models do not support " ++ mode.key ++ "."
  | invalidImageCount mode expected got =>
    mode.key ++ " needs " ++ expected ++ " image(s), got " ++ toString got ++ "."

def ResourceError.message : ResourceError → String
  | noModelSelected => "No model selected. Choose a model in settings before generating."
  | unrecognizedModel selection =>
    "Could not tell which model family '" ++ selection ++
      "' belongs to. Prefix it with the family, e.g. 'Flux: " ++ selection ++ "'."
  | unsupportedExtension family filename =>
    "No " ++ family.key ++ " loader handles '" ++ filename ++ "'."
  | imageUnreachable url reason => "Could not reach image '" ++ url ++ "': " ++ reason
  | imageNotFound path => "The local file path '" ++ path ++ "' does not exist."
  | imageNotAFile path => "'" ++ path ++ "' is not a file."
  | noEditModel family =>
    "Configure a " ++ family.key ++ " edit model in settings before running an edit."

def InternalError.message : InternalError → String
  | missingNode node => "Template node `" ++ node ++ "` is missing"
  | missingInput node input => "Template node `" ++ node ++ "` has no input `" ++ input ++ "`"
  | template name reason => "Template `" ++ name ++ "` is invalid: " ++ reason

def InternalError.ofGraph : GraphError → InternalError
  | .missingNode node => missingNode node
  | .missingInput node input => missingInput node input

namespace CompileError

instance : MonadLift (Except ValidationError) (Except CompileError) := ⟨Except.mapError validation⟩

instance : MonadLift (Except ResourceError) (Except CompileError) := ⟨Except.mapError resource⟩

instance : MonadLift (Except InternalError) (Except CompileError) := ⟨Except.mapError internal⟩

instance : MonadLift (Except GraphError) (Except CompileError) :=
  ⟨Except.mapError fun e => internal (.ofGraph e)⟩

def message : CompileError → String
  | validation e => e.message
  | resource e => e.message
  | internal e => e.message

/-- The message for the user, without the details of a defect. -/
def userMessage : CompileError → String
  | internal _ => "Internal error: the workflow template could not be prepared."
  | other => other.message

def isInternal : CompileError → Bool
  | internal _ => true
  | _ => false

end CompileError

end Renderflow
