import Renderflow.Files
import Renderflow.Image.Spec
import Renderflow.Text.Split

/-!
# Image locations

A location is the URL of an image, whose server is asked for the type of its content, or
the path of a local file.
-/

namespace Renderflow

/-- What a job can learn about the places outside it. -/
structure World where
  /-- The content type that a server reports for a URL, if it reports one; or the chain of
  causes for which it could not be asked, the outermost first. -/
  contentType : String → Except (List String) (Option String)
  /-- What a local path names, if anything. -/
  entry : String → Option Entry

namespace Image

def extensions : List String := ["png", "jpg", "jpeg", "webp", "bmp", "gif", "tiff"]

def isUrl (location : String) : Bool :=
  let l := Text.lower location
  Text.startsWith l "http://" || Text.startsWith l "https://"

def isImageType (contentType : String) : Bool :=
  Text.startsWith (Text.lower (Text.trim contentType)) "image/"

def validateUrl (w : World) (url : String) : Except CompileError Unit :=
  match w.contentType url with
  | .error causes => .error (.resource (.imageUnreachable url (": ".intercalate causes)))
  | .ok none => .error (.validation (.invalidImageSource url "unknown"))
  | .ok (some type) =>
    if isImageType type then .ok () else .error (.validation (.invalidImageSource url type))

def hasImageExtension (path : String) : Bool :=
  ((fileExtension? path).map Text.lower).any extensions.contains

def validatePath (w : World) (path : String) : Except CompileError Unit :=
  match w.entry path with
  | none => .error (.resource (.imageNotFound path))
  | some .directory => .error (.resource (.imageNotAFile path))
  | some .file =>
    if hasImageExtension path then .ok ()
    else .error (.validation (.unsupportedImageExtension path))

/-- Refuses a location that names no image. -/
def validate (w : World) (location : String) : Except CompileError Unit :=
  if isUrl location then validateUrl w location else validatePath w location

/-- Refuses a list of locations one of which names no image. The answers about URLs come
before those about files. -/
def validateAll (w : World) (locations : List String) : Except CompileError Unit := do
  (locations.filter isUrl).forM (validateUrl w)
  (locations.filter fun l => !isUrl l).forM (validatePath w)

/-- The image of a spec, if its location names one. -/
def Spec.resolve (w : World) (text : String) : Except CompileError Spec := do
  let spec ← Spec.parse text
  validate w spec.location
  pure spec

end Image

end Renderflow
