import LabelStream.Command
import LabelStream.RunLength

/-! Writing commands. Length fields hold the low bits of the true length, so only data that fits the
field can be read back. -/
namespace LabelStream.Builder

def reset : Octets := [escapeByte, 0x40]

/-- A device setting; nothing checks the number of operands. -/
def setting (code : UInt8) (operands : Octets) : Octets := [escapeByte, 0x69, code] ++ operands

def continuousPage : Octets := setting 0x50 []

def statusRequest : Octets := setting 0x53 []

def relativeMove (dots : Nat) : Octets := [escapeByte, 0x5C] ++ pairOctets dots

/-- One column of a bit image: top, middle and bottom strip. -/
structure Triple where
  top : UInt8
  middle : UInt8
  bottom : UInt8
  deriving Repr, DecidableEq

def Triple.octets (t : Triple) : Octets := [t.top, t.middle, t.bottom]

def bitImageWithMode (mode : UInt8) (columns : List Triple) : Octets :=
  [escapeByte, 0x2A, mode] ++ pairOctets columns.length ++ columns.flatMap Triple.octets

def bitImage (columns : List Triple) : Octets := bitImageWithMode bitImageMode columns

def rasterLine (data : Octets) : Octets := 0x47 :: pairOctets data.length ++ data

/-- A raster line in run-length code. It can be read back only while compression is on. -/
def rasterLineCompressed (data : Octets) : Octets := rasterLine (RunLength.compress data)

/-- A raster line with a length field of one byte. -/
def rasterLineShort (data : Octets) : Octets := [0x67, 0, UInt8.ofNat data.length] ++ data

def blankLine : Octets := [0x5A]

/-- Asks for run-length code or for none; a printer takes only the former. -/
def setCompression (enabled : Bool) : Octets := [0x4D, if enabled then runLengthKind else 0]

def printFeed : Octets := [0x1A]

def formFeed : Octets := [0x0C]

def carriageReturn : Octets := [0x0D]

def lineFeed : Octets := [0x0A]

end LabelStream.Builder
