/-! The command code of the printers: which byte starts which command, and what the two bytes after
an escape select. Every byte is classified, unknown ones keep their value. -/
namespace LabelStream

/-- The byte that starts every multi-byte selection, and ends a preamble. -/
def escapeByte : UInt8 := 0x1B

/-- The meaning of a byte where a command is expected. -/
inductive Opcode where
  | escape
  | rasterLine
  | rasterLineShort
  | compression
  | blankLine
  | printFeed (code : UInt8)
  | formFeed
  | carriageReturn
  | lineFeed
  | null
  | unknown (byte : UInt8)
  deriving Repr, DecidableEq

def Opcode.ofByte (byte : UInt8) : Opcode :=
  match byte with
  | 0x1B => .escape
  | 0x47 => .rasterLine
  | 0x67 => .rasterLineShort
  | 0x4D => .compression
  | 0x5A => .blankLine
  | 0x1A => .printFeed byte
  | 0x03 => .printFeed byte
  | 0x0C => .formFeed
  | 0x0D => .carriageReturn
  | 0x0A => .lineFeed
  | 0x00 => .null
  | _ => .unknown byte

/-- The meaning of the byte after an escape. -/
inductive Escape where
  | reset
  | relativeMove
  | setting
  | bitImage
  | unknown (byte : UInt8)
  deriving Repr, DecidableEq

def Escape.ofByte (byte : UInt8) : Escape :=
  match byte with
  | 0x40 => .reset
  | 0x5C => .relativeMove
  | 0x69 => .setting
  | 0x2A => .bitImage
  | _ => .unknown byte

/-- The device setting that the code byte of an `ESC i` command names. -/
inductive Setting where
  | variousMode
  | settingD
  | rasterMode
  | expandedMode
  | commandMode
  | autoCut
  | baudRate
  | printInformation
  | marginAmount
  | modelInformation
  | continuousPage
  | statusRequest
  | unknown (code : UInt8)
  deriving Repr, DecidableEq

namespace Setting

def ofByte (code : UInt8) : Setting :=
  match code with
  | 0x4D => .variousMode
  | 0x44 => .settingD
  | 0x52 => .rasterMode
  | 0x4B => .expandedMode
  | 0x61 => .commandMode
  | 0x41 => .autoCut
  | 0x42 => .baudRate
  | 0x63 => .printInformation
  | 0x64 => .marginAmount
  | 0x7A => .modelInformation
  | 0x50 => .continuousPage
  | 0x53 => .statusRequest
  | _ => .unknown code

def operandCount : Setting → Nat
  | variousMode | settingD | rasterMode | expandedMode | commandMode | autoCut => 1
  | baudRate => 50
  | printInformation => 5
  | marginAmount => 2
  | modelInformation => 10
  | continuousPage | statusRequest | unknown _ => 0

def describe : Setting → String
  | variousMode => "ESC i M various mode"
  | settingD => "ESC i D"
  | rasterMode => "ESC i R raster mode"
  | expandedMode => "ESC i K set expanded mode"
  | commandMode => "ESC i a switch between ESC/P and raster mode"
  | autoCut => "ESC i A auto-cut enable (PT-9700)"
  | baudRate => "ESC i B baud rate change"
  | printInformation => "ESC i c print information"
  | marginAmount => "ESC i d set margin amount"
  | modelInformation => "ESC i z model information (QL-500)"
  | continuousPage => "ESC i P continuous page"
  | statusRequest => "ESC i S status request"
  | unknown _ => "ESC i unrecognized"

end Setting
end LabelStream
