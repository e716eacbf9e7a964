import Renderflow.Error
import Renderflow.Graph.Edit
import Renderflow.Json.Decode

/-!
# Styles

A style is a named set of five LoRA slots, made for one family or for all. A job on another
family runs with the slots disabled and a warning.
-/

namespace Renderflow

/-- One LoRA adapter that can be switched on. -/
structure LoraSlot where
  on : Bool
  lora : String
  strength : Float

namespace LoraSlot

def disabled : LoraSlot := ⟨false, "NONE", 0.0⟩

def value (s : LoraSlot) : Value :=
  .object [("lora", .str s.lora), ("on", .bool s.on), ("strength", .float s.strength)]

def toJson (s : LoraSlot) : Json :=
  .obj [("on", .bool s.on), ("lora", .str s.lora), ("strength", .ofFloat s.strength)]

def ofJson? (j : Json) : Option LoraSlot := do
  let f ← j.fieldsOf? ["on", "lora", "strength"] 0
  pure
    { on := ← f.default "on" disabled.on Json.asBool?
      lora := ← f.default "lora" disabled.lora Json.asString?
      strength := ← f.default "strength" disabled.strength Json.asFloat? }

end LoraSlot

/-- The inputs that take the slots of a style. -/
def slotNames : Vector String 5 := #v["lora_1", "lora_2", "lora_3", "lora_4", "lora_5"]

structure Style where
  /-- The key of a family, or `all`. -/
  modelType : String
  favorite : Bool
  slots : Vector (Option LoraSlot) 5

namespace Style

def fieldNames : List String := ["model_type", "favorite"] ++ slotNames.toList

def toJson (s : Style) : Json :=
  .obj ([("model_type", .str s.modelType), ("favorite", .bool s.favorite)] ++
    (slotNames.zip (s.slots.map (Json.ofOption LoraSlot.toJson))).toList)

def ofJson? (j : Json) : Option Style := do
  let f ← j.fieldsOf? fieldNames fieldNames.length
  pure
    { modelType := ← f.default "model_type" "all" Json.asString?
      favorite := ← f.default "favorite" false Json.asBool?
      slots := ← slotNames.mapM fun name => f.optional name LoraSlot.ofJson? }

/-- Whether a style may be used with a family. -/
def supports (s : Style) (family : Family) : Bool :=
  Text.sameLetters (Text.trim s.modelType) "all" || Family.ofKey? s.modelType == some family

end Style

/-- The styles by name. -/
abbrev StyleBook := Table Style

namespace StyleBook

def toJson (b : StyleBook) : Json :=
  .obj (b.mapValues fun _ s => s.toJson).entries

def ofJson? : Json → Option StyleBook :=
  Json.asTable? Style.ofJson?

/-- The names of the styles in order, those of the favorites first. -/
def names (b : StyleBook) : List String :=
  let (favorites, others) := b.entries.partition fun e => e.2.favorite
  (favorites ++ others).map Prod.fst

end StyleBook

/-- The slots that a job writes, and why they are not those of the style. -/
structure ResolvedStyle where
  name : String
  slots : Vector LoraSlot 5
  warning : Option String

namespace ResolvedStyle

def allDisabled : Vector LoraSlot 5 := Vector.replicate 5 .disabled

/-- The style that disables every slot. -/
def off : ResolvedStyle := ⟨"off", allDisabled, none⟩

def isOff (name : String) : Bool :=
  Text.sameLetters name "off"

/-- The style of a name, for a job on a family. -/
def resolve (book : StyleBook) (text : String) (family : Family) :
    Except ValidationError ResolvedStyle :=
  let name := Text.trim text
  if name.isEmpty || isOff name then .ok off
  else match book.find? name with
    | none => .error (.unknownStyle name)
    | some style =>
      if style.supports family then
        .ok ⟨name, style.slots.map (·.getD .disabled), none⟩
      else
        .ok ⟨name, allDisabled, some ("Style '" ++ name ++ "' is for " ++
          Text.upper (Text.trim style.modelType) ++ " models, but this job uses " ++ family.tag ++
          ". Style disabled.")⟩

/-- The edits that write a style into the LoRA node of a graph. -/
def edits (s : ResolvedStyle) (node : String) : List Edit :=
  (slotNames.zip s.slots).toList.map fun e => .insertInput node e.1 e.2.value

end ResolvedStyle

end Renderflow
