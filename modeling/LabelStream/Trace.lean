import LabelStream.Command.Reader

/-! What a decode tells about itself: one event per thing seen, at the offset of the byte that it is
about. Events are kept as data and put into words only when someone reads them. -/
namespace LabelStream

inductive Note where
  /-- Byte number `index` before the first escape. -/
  | skipped (index : Nat) (byte : UInt8)
  | reset
  | relativeMove (dots : Nat)
  | setting (setting : Setting)
  | unknownSetting (code : UInt8)
  | operand (index : Nat) (value : UInt8)
  | graphics
  | bitImage (mode : UInt8) (columns : Nat)
  | rasterLine (form : RasterForm) (xpos length : Nat) (compressed : Bool) (strips : Nat)
  | compression (kind : UInt8) (enabled : Bool)
  | blankLine (xpos : Nat)
  | printFeed (code : UInt8)
  | formFeed
  | carriageReturn
  | lineFeed
  | terminator
  | fault (fault : Fault)
  /-- The summary of the whole decode. -/
  | finished (halt : Halt) (width height : Nat)
  deriving Repr, DecidableEq

def onOff (flag : Bool) : String := if flag then "on" else "off"

/-- A printable ASCII byte as `, 'c'`; nothing for any other byte. -/
def printableSuffix (byte : UInt8) : String :=
  if 32 ≤ byte && byte ≤ 126 then ", '" ++ String.singleton (Char.ofNat byte.toNat) ++ "'" else ""

def Note.message : Note → String
  | skipped index byte =>
    "skipping until ESC (" ++ toString index ++ ", " ++ toString byte.toNat ++
      printableSuffix byte ++ ")"
  | reset => "ESC @ initialize"
  | relativeMove dots => "ESC \\ set relative position +" ++ toString dots
  | setting s => s.describe
  | unknownSetting code => "unrecognized ESC i code " ++ toString code.toNat
  | operand index value => "operand " ++ toString index ++ ": " ++ toString value.toNat
  | graphics => "ESC * graphics command"
  | bitImage mode columns =>
    "ESC * graphics mode=" ++ toString mode.toNat ++ " columns=" ++ toString columns ++
      " (expect " ++ toString (3 * columns) ++ " bytes)"
  | rasterLine form xpos length compressed strips =>
    form.letter ++ " raster line xpos=" ++ toString xpos ++ " numchars=" ++ toString length ++
      " compression=" ++ onOff compressed ++ " strips=" ++ toString strips
  | compression kind enabled =>
    "M compression type " ++ toString kind.toNat ++ " (compression " ++ onOff enabled ++ ")"
  | blankLine xpos => "Z blank raster line xpos=" ++ toString xpos
  | printFeed code => "form feed (" ++ toString code.toNat ++ ")"
  | formFeed => "FF form feed"
  | carriageReturn => "CR"
  | lineFeed => "LF"
  | terminator => "NUL terminator"
  | fault f => f.message
  | finished halt width height =>
    "finished: " ++ halt.message ++ ", image " ++ toString width ++ "x" ++ toString height

/-- A note and the offset of the byte that it is about. -/
structure Event where
  position : Nat
  note : Note
  deriving Repr, DecidableEq

/-- An offset and a message on one line, the offset right-aligned to six places. -/
def traceLine (position : Nat) (message : String) : String :=
  let digits := toString position
  "[" ++ "".pushn ' ' (6 - digits.length) ++ digits ++ "] " ++ message

def Event.text (e : Event) : String := traceLine e.position e.note.message

/-- One event for each operand, at the offsets from `position` on. -/
def operandEvents (position : Nat) (operands : Octets) : List Event :=
  operands.zipIdx.map fun (value, i) => ⟨position + i, .operand i value⟩

/-- What a command at offset `p` tells, with the pen as it was before. -/
def Command.events (p : Nat) (pen : Pen) : Command → List Event
  | .reset => [⟨p + 1, .reset⟩]
  | .relativeMove dots => [⟨p + 1, .relativeMove dots⟩]
  | .setting code operands =>
    match Setting.ofByte code with
    | .unknown code => [⟨p + 2, .unknownSetting code⟩]
    | known => ⟨p + 2, .setting known⟩ :: operandEvents (p + 3) operands
  | .bitImage mode columns _ => [⟨p + 1, .graphics⟩, ⟨p + 2, .bitImage mode columns⟩]
  | .rasterLine form length line =>
    [⟨p, .rasterLine form pen.xpos length pen.compression line.length⟩]
  | .compression kind => [⟨p, .compression kind (pen.compression || kind == runLengthKind)⟩]
  | .blankLine => [⟨p, .blankLine pen.xpos⟩]
  | .printFeed code => [⟨p, .printFeed code⟩]
  | .formFeed => [⟨p, .formFeed⟩]
  | .carriageReturn => [⟨p, .carriageReturn⟩]
  | .lineFeed => [⟨p, .lineFeed⟩]

/-- What the arrived part of a command at offset `p` tells. -/
def Fragment.events (p : Nat) (pen : Pen) : Fragment → List Event
  | .header => []
  | .graphics => [⟨p + 1, .graphics⟩]
  | .body command => command.events p pen

/-- What a fault in the command at offset `p` tells. A refused graphics mode was announced first. -/
def Fault.events (p : Nat) (f : Fault) : List Event :=
  match f.kind with
  | .unsupportedGraphicsMode => [⟨p + 1, .graphics⟩, ⟨f.position, .fault f⟩]
  | _ => [⟨f.position, .fault f⟩]

end LabelStream
