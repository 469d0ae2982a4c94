import LabelStream.Opcode
import LabelStream.Printer
import LabelStream.Surface

/-! The commands of a stream and what each of them does to the pen and the picture. A command holds
the data that arrived for it, so the same drawing rules serve a command that the end of the data cut
short. -/
namespace LabelStream

/-- The two spellings of a raster line. -/
inductive RasterForm where
  | long
  | short
  deriving Repr, DecidableEq

def RasterForm.letter : RasterForm → String
  | long => "G"
  | short => "g"

inductive Command where
  | reset
  | relativeMove (dots : Nat)
  /-- A device setting with the operand bytes that arrived. -/
  | setting (code : UInt8) (operands : Octets)
  /-- Graphics of 24 rows: a count of columns and the bytes that arrived, three to a column. -/
  | bitImage (mode : UInt8) (columns : Nat) (dots : Octets)
  /-- One column of strips from the top row down. `length` is the written length, which counts coded
  bytes while compression is on; `line` holds the strips themselves. -/
  | rasterLine (form : RasterForm) (length : Nat) (line : Octets)
  | compression (kind : UInt8)
  | blankLine
  | printFeed (code : UInt8)
  | formFeed
  | carriageReturn
  | lineFeed
  deriving Repr, DecidableEq

/-- The graphics mode that every printer takes: 24 dots, single density. -/
def bitImageMode : UInt8 := 39

/-- The compression kind that stands for run-length coding. -/
def runLengthKind : UInt8 := 2

/-- Strips of one column drawn downward from row `y`. Filler marks where a column was, data is the
picture itself. -/
structure Bar where
  x : Nat
  y : Nat
  dots : Octets
  filler : Bool
  deriving Repr, DecidableEq

def rasterFiller : UInt8 := 0xAA

def bitImageFiller : UInt8 := 0x55

/-- How far down the filler beside a blank line reaches, on every model. -/
def blankLineFillerStrips : Nat := 48

def rasterBars (x : Nat) (line : Octets) : List Bar :=
  [⟨x, 0, line, false⟩, ⟨x + 1, 0, List.replicate line.length rasterFiller, true⟩]

def blankBars (p : Profile) (x : Nat) : List Bar :=
  [⟨x, 0, List.replicate p.blankLineStrips 0, false⟩,
    ⟨x + 1, 0, List.replicate blankLineFillerStrips rasterFiller, true⟩]

/-- The bars of a bit image from column `x` on, after those of earlier columns, which are given last
one first. Bytes that do not fill a column are drawn without filler. -/
def bitImageBars (drawn : List Bar) (x y : Nat) : Octets → List Bar
  | [] => drawn.reverse
  | [a] => (⟨x, y, [a], false⟩ :: drawn).reverse
  | [a, b] => (⟨x, y, [a, b], false⟩ :: drawn).reverse
  | a :: b :: c :: rest =>
    bitImageBars
      (⟨x, y + 3 * stripHeight, [bitImageFiller], true⟩ ::
        ⟨x + 1, y, List.replicate 3 bitImageFiller, true⟩ :: ⟨x, y, [a, b, c], false⟩ :: drawn)
      (x + 1) y rest

namespace Command

/-- Everything that the command draws with the pen where it is, in order. -/
def bars (p : Profile) (pen : Pen) : Command → List Bar
  | rasterLine _ _ line => rasterBars pen.xpos line
  | blankLine => blankBars p pen.xpos
  | bitImage _ _ dots => bitImageBars [] pen.xpos pen.ypos dots
  | _ => []

/-- Where the command leaves the pen, its marks on the picture aside. -/
def move (p : Profile) (pen : Pen) : Command → Pen
  | relativeMove dots => pen.moveRight dots
  | setting code _ => if Setting.ofByte code = .continuousPage then pen.startPage else pen
  | bitImage _ _ dots => pen.advance (dots.length / 3)
  | rasterLine _ _ _ => pen.advance 1
  | blankLine => pen.advance 1
  | compression kind => if kind = runLengthKind then pen.compress else pen
  | formFeed => pen.formFeed p.formFeedDots
  | carriageReturn => pen.carriageReturn
  | lineFeed => pen.lineFeed p.lineFeedDots
  | reset | printFeed _ => pen

end Command

namespace Bar

def reach (pen : Pen) (bar : Bar) : Pen := pen.reach bar.y bar.dots.length

def paint (s : Surface) (bar : Bar) : Surface := s.paintDown bar.x bar.y bar.dots

end Bar
end LabelStream
