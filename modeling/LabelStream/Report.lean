import LabelStream.Image
import LabelStream.Json

/-! Results as JSON. -/
namespace LabelStream

def FaultKind.id : FaultKind → String
  | unsupportedGraphicsMode => "unsupported_graphics_mode"
  | unrecognizedEscapeSequence => "unrecognized_escape_sequence"
  | unrecognizedOpcode => "unrecognized_opcode"

/-- A value that may be missing. -/
def Json.orNull {α : Type} (f : α → Json) : Option α → Json
  | some value => f value
  | none => .null

def Fault.toJson (f : Fault) : Json :=
  .object [("position", .natural f.position),
    ("byte", Json.orNull (fun b => .natural b.toNat) f.byte),
    ("kind", .string f.kind.id)]

def Halt.toJson : Halt → Json
  | endOfStream => .object [("reason", .string "end_of_stream")]
  | nullTerminator position =>
    .object [("reason", .string "null_terminator"), ("position", .natural position)]
  | truncated opcode =>
    .object [("reason", .string "truncated"), ("opcode_position", .natural opcode)]
  | cancelled => .object [("reason", .string "cancelled")]
  | aborted position => .object [("reason", .string "aborted"), ("position", .natural position)]

def Event.toJson (e : Event) : Json :=
  .object [("position", .natural e.position), ("message", .string e.note.message)]

/-- What a caller is told about a decode in place of, or besides, the picture. -/
structure Report where
  success : Bool
  width : Nat
  height : Nat
  halt : Halt
  error : Option Fault
  message : Option String
  consumed : Nat
  opcodes : Nat
  blackPixels : Nat
  trace : List Event

namespace Report

def of (d : Decoded) (error : Option Fault) : Report where
  success := error.isNone
  width := d.width
  height := d.height
  halt := d.halt
  error := error
  message := error.map Fault.message
  consumed := d.consumed
  opcodes := d.opcodes
  blackPixels := d.blackPixels
  trace := d.trace.getD []

/-- The report where a picture was asked for and there is none. -/
def withoutImage (e : ExportError) (r : Report) : Report :=
  { r with success := false, message := some (r.message.getD e.message) }

def toJson (r : Report) : Json :=
  .object [("success", .bool r.success), ("width", .natural r.width),
    ("height", .natural r.height), ("halt", r.halt.toJson),
    ("error", Json.orNull Fault.toJson r.error),
    ("message", Json.orNull (fun m => .string m) r.message),
    ("bytes_consumed", .natural r.consumed), ("opcodes", .natural r.opcodes),
    ("black_pixels", .natural r.blackPixels), ("trace", .array (r.trace.map Event.toJson))]

end Report

def Model.toJson (m : Model) : Json :=
  .object [("id", .string m.id), ("name", .string m.profile.name), ("dpi", .natural m.profile.dpi),
    ("blank_line_strips", .natural m.profile.blankLineStrips)]

end LabelStream
