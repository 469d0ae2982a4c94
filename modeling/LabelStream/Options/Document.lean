import LabelStream.Json.Parser
import LabelStream.Options

/-! Options as a JSON document: an object with any part of the fields in any order, or an array with
the fields in their fixed order. Fields left out keep their standard value. -/
namespace LabelStream.Options

/-- A field of the document: its name, its value in given options, and how a value is taken over. -/
structure Field where
  name : String
  get : Options → Json
  set : Json → Options → Option Options

def flag? : Json → Option Bool
  | .bool value => some value
  | _ => none

/-- A number is taken as a size only if it is written as a natural number below the limit. -/
def size? : Json → Option Nat
  | .natural value => if value < sizeLimit then some value else none
  | _ => none

/-- A model is named by its identifier, alone or as the only member of an object, without a value. -/
def model? : Json → Option Model
  | .string (some name) => Model.ofId? name
  | .object [(some name, .null)] => Model.ofId? name
  | _ => none

def fields : List Field := [
  ⟨"compression_hint", fun o => .bool o.compressionHint,
    fun v o => (flag? v).map fun b => { o with compressionHint := b }⟩,
  ⟨"trace", fun o => .bool o.trace, fun v o => (flag? v).map fun b => { o with trace := b }⟩,
  ⟨"model", fun o => .string o.model.id, fun v o => (model? v).map fun m => { o with model := m }⟩,
  ⟨"draw_filler", fun o => .bool o.drawFiller,
    fun v o => (flag? v).map fun b => { o with drawFiller := b }⟩,
  ⟨"accept_any_graphics_mode", fun o => .bool o.acceptAnyGraphicsMode,
    fun v o => (flag? v).map fun b => { o with acceptAnyGraphicsMode := b }⟩,
  ⟨"batch_size", fun o => .natural o.batchSize,
    fun v o => (size? v).map fun n => { o with batchSize := n }⟩,
  ⟨"max_width", fun o => .natural o.maxWidth,
    fun v o => (size? v).map fun n => { o with maxWidth := n }⟩,
  ⟨"max_height", fun o => .natural o.maxHeight,
    fun v o => (size? v).map fun n => { o with maxHeight := n }⟩]

def field? (name : String) : Option Field := fields.find? (·.name == name)

def toJson (o : Options) : Json := .object (fields.map fun f => (some f.name, f.get o))

def text (o : Options) : String := o.toJson.text

/-- Takes over the members of an object one by one. Unknown names are passed over; a field must not
be given twice, nor a name that is no text. -/
def takeMembers (given : List String) (o : Options) : List (JsonText × Json) → Option Options
  | [] => some o
  | (none, _) :: _ => none
  | (some name, value) :: rest =>
    match field? name with
    | none => takeMembers given o rest
    | some field =>
      if given.contains name then none
      else
        match field.set value o with
        | none => none
        | some o => takeMembers (name :: given) o rest

/-- Takes over the items of an array, which belong to the given fields in order. -/
def takeItems (o : Options) : List Field → List Json → Option Options
  | _, [] => some o
  | [], _ :: _ => none
  | field :: fields, value :: rest =>
    match field.set value o with
    | none => none
    | some o => takeItems o fields rest

def ofJson? : Json → Option Options
  | .object members => takeMembers [] standard members
  | .array items => takeItems standard fields items
  | _ => none

def parse? (text : String) : Option Options := (Json.parse? text).bind ofJson?

end LabelStream.Options
