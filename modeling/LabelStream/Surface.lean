import LabelStream.Octets
import LabelStream.Pen

/-! A monochrome bitmap that grows column by column up to a bound. It is written one strip of eight
dots at a time; the last strip written to a dot decides its colour. -/
namespace LabelStream

/-- The dots of one column from the top down, `true` for black. Dots below the end are white. -/
abbrev Column := Array Bool

namespace Column

/-- Lengthens the column with white dots to at least `rows` rows. -/
def extend (rows : Nat) (column : Column) : Column :=
  column ++ Array.replicate (rows - column.size) false

/-- Writes the upper `n` dots of a strip from row `y` on. The highest bit is the top dot. -/
def write (y : Nat) (dots : UInt8) : Nat → Column → Column
  | 0, column => column
  | n + 1, column => write y dots n (column.setIfInBounds (y + n) (dots.toNat.testBit (7 - n)))

end Column

structure Surface where
  columns : Array Column
  maxWidth : Nat
  maxHeight : Nat
  /-- The lowest bottom edge of any strip, drawn or not. -/
  extentY : Nat
  /-- Strips that did not fit inside the bound. -/
  clipped : Nat

namespace Surface

/-- A white surface that may grow up to the given bound. -/
def blank (maxWidth maxHeight : Nat) : Surface := ⟨#[], maxWidth, maxHeight, 0, 0⟩

/-- Paints the dots of column `x` from row `y` down to the row `bottom`, and tells whether all of them are
inside the bound. Rows and columns outside it are dropped. -/
def paintTo (x y bottom : Nat) (dots : UInt8) : Surface → Surface × Bool
  | ⟨columns, maxWidth, maxHeight, extentY, clipped⟩ =>
    let extent := max extentY bottom
    let whole := x < maxWidth && bottom ≤ maxHeight
    let missed := if whole then clipped else clipped + 1
    if whole || (x < maxWidth && y < maxHeight) then
      let floor := min bottom maxHeight
      let grown := columns ++ Array.replicate (x + 1 - columns.size) #[]
      let drawn := grown.modify x fun column =>
        Column.write y dots (floor - y) (Column.extend floor column)
      (⟨drawn, maxWidth, maxHeight, extent, missed⟩, floor == bottom)
    else (⟨columns, maxWidth, maxHeight, extent, missed⟩, false)

/-- Paints the strip at column `x` below row `y`, whose lower edge is a sum of machine words: behind the
last row it starts again at zero. -/
def paintAt (x y : UInt64) (dots : UInt8) (s : Surface) : Surface × Bool :=
  s.paintTo x.toNat y.toNat (y + stripHeight.toUInt64).toNat dots

/-- The same for a job, whose rows no capture brings to the last one. -/
def paint (x y : Nat) (dots : UInt8) (s : Surface) : Surface :=
  (s.paintTo x y (y + stripHeight) dots).1

/-- Paints strips below one another from row `y` on. -/
def paintDown (x : Nat) : Nat → Octets → Surface → Surface
  | _, [], s => s
  | y, dots :: rest, s => paintDown x (y + stripHeight) rest (s.paint x y dots)

/-- The dot is black. Dots never painted are white. -/
def pixel (s : Surface) (x y : Nat) : Bool :=
  match s.columns[x]? with
  | none => false
  | some column => column.getD y false

/-- The eight dots at `(x, y)` and below, packed as a strip is. Rows are counted in machine words. -/
def strip (s : Surface) (x y : UInt64) : UInt8 :=
  (List.range stripHeight).foldl
    (fun packed row => packed * 2 + (s.pixel x.toNat (y + row.toUInt64).toNat).toUInt8) 0

/-- How many columns have been touched, counted from the left edge. -/
def allocatedWidth (s : Surface) : Nat := s.columns.size

/-- Black dots in the rectangle of the given size at the top left. -/
def countBlack (s : Surface) (width height : Nat) : Nat :=
  (s.columns.extract 0 width).foldl
    (fun total column => total + (column.extract 0 height).count true) 0

end Surface
end LabelStream
