/-! The drawing position of a job and the marks it leaves behind: how far right the pen has been and
how far down a strip has reached. -/
namespace LabelStream

/-- Rows that one strip covers. -/
def stripHeight : Nat := 8

/-- No column lies further right. -/
def lastColumn : Nat := Nat.pow 2 64 - 1

/-- Position and modes of one job. `xmax` is the largest `xpos` so far, `ymax` the lowest bottom edge
of any strip, `xmin` the left margin of the current page. The scratch buffer that holds an expanded
raster line is left out: it is emptied before each line, so nothing that is drawn depends on it
(`RunLength.expandInto_eq`), and two decodes with equal pens may still differ in it. -/
structure Pen where
  xpos : Nat
  ypos : Nat
  xmin : Nat
  xmax : Nat
  ymax : Nat
  /-- Raster lines are run-length coded. -/
  compression : Bool
  deriving Repr, DecidableEq

namespace Pen

def home : Pen := ⟨0, 0, 0, 0, 0, false⟩

def moveTo (x : Nat) (pen : Pen) : Pen := { pen with xpos := x, xmax := max pen.xmax x }

/-- Moves right, but not past the last column. -/
def moveRight (dots : Nat) (pen : Pen) : Pen := pen.moveTo (min (pen.xpos + dots) lastColumn)

def advance (columns : Nat) (pen : Pen) : Pen := pen.moveTo (pen.xpos + columns)

def lineFeed (dots : Nat) (pen : Pen) : Pen := { pen with ypos := pen.ypos + dots }

/-- Moves to the left margin of the page. -/
def carriageReturn (pen : Pen) : Pen := pen.moveTo pen.xmin

/-- Moves down and to the left edge, whatever the page's margin is. -/
def formFeed (dots : Nat) (pen : Pen) : Pen := (pen.moveTo 0).lineFeed dots

/-- Starts a page at the right of everything drawn so far. -/
def startPage (pen : Pen) : Pen := { (pen.moveTo pen.xmax) with xmin := pen.xmax, ypos := 0 }

def compress (pen : Pen) : Pen := { pen with compression := true }

/-- Takes note of `strips` strips drawn downward from row `y`. -/
def reach (y strips : Nat) (pen : Pen) : Pen :=
  if strips = 0 then pen else { pen with ymax := max pen.ymax (y + stripHeight * strips) }

end Pen
end LabelStream
