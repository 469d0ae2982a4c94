import LabelStream.Command
import LabelStream.Fault
import LabelStream.RunLength

/-! Reading one command off a capture. What is read depends on two things only: whether raster lines
are run-length coded, and whether every graphics mode is accepted. -/
namespace LabelStream

/-- What arrived of a command that the end of the data cut short. -/
inductive Fragment where
  /-- Nothing that could be drawn or told. -/
  | header
  /-- The start of a bit image whose mode or column count is missing. -/
  | graphics
  /-- A command with part of its operands or data. -/
  | body (command : Command)
  deriving Repr, DecidableEq

/-- What stands at the cursor. -/
inductive Reading where
  /-- No byte is left. -/
  | nothing
  | whole (command : Command) (after : Cursor)
  /-- The data ended inside a command; every byte is read. -/
  | cut (fragment : Fragment) (after : Cursor)
  | terminator (after : Cursor)
  | fault (fault : Fault) (after : Cursor)

/-- The circumstances that a command's length depends on. -/
structure Grammar where
  /-- Raster lines are run-length coded. -/
  compressed : Bool
  /-- Every graphics mode is accepted. -/
  lenient : Bool
  deriving Repr, DecidableEq

namespace Grammar

/-- The strips of a raster line whose written length is `length`. -/
def readRaster (g : Grammar) (form : RasterForm) (length : Nat) (c : Cursor) : Reading :=
  if g.compressed then
    let e := RunLength.expand length c
    let command := .rasterLine form length e.output
    if e.complete then .whole command e.after else .cut (.body command) e.after
  else
    let (line, after) := c.take length
    let command := .rasterLine form length line
    if line.length = length then .whole command after else .cut (.body command) after

def readSetting (c : Cursor) : Reading :=
  match c.next with
  | (none, after) => .cut .header after
  | (some code, after) =>
    let count := (Setting.ofByte code).operandCount
    let (operands, after) := after.take count
    let command := .setting code operands
    if operands.length = count then .whole command after else .cut (.body command) after

def readBitImage (g : Grammar) (c : Cursor) : Reading :=
  match c.next with
  | (none, after) => .cut .graphics after
  | (some mode, after) =>
    if mode ≠ bitImageMode ∧ g.lenient = false then
      .fault ⟨c.position, some mode, .unsupportedGraphicsMode⟩ after
    else
      match after.nextPair with
      | (none, after) => .cut .graphics after
      | (some columns, after) =>
        let (dots, after) := after.take (3 * columns)
        let command := .bitImage mode columns dots
        if dots.length = 3 * columns then .whole command after else .cut (.body command) after

def readEscape (g : Grammar) (c : Cursor) : Reading :=
  match c.next with
  | (none, after) => .cut .header after
  | (some byte, after) =>
    match Escape.ofByte byte with
    | .reset => .whole .reset after
    | .relativeMove =>
      match after.nextPair with
      | (none, after) => .cut .header after
      | (some dots, after) => .whole (.relativeMove dots) after
    | .setting => readSetting after
    | .bitImage => g.readBitImage after
    | .unknown byte => .fault ⟨c.position, some byte, .unrecognizedEscapeSequence⟩ after

def read (g : Grammar) (c : Cursor) : Reading :=
  match c.next with
  | (none, _) => .nothing
  | (some byte, after) =>
    match Opcode.ofByte byte with
    | .escape => g.readEscape after
    | .rasterLine =>
      match after.nextPair with
      | (none, after) => .cut .header after
      | (some length, after) => g.readRaster .long length after
    | .rasterLineShort =>
      match after.next with
      | (none, after) => .cut .header after
      | (some _, after) =>
        match after.next with
        | (none, after) => .cut .header after
        | (some length, after) => g.readRaster .short length.toNat after
    | .compression =>
      match after.next with
      | (none, after) => .cut .header after
      | (some kind, after) => .whole (.compression kind) after
    | .blankLine => .whole .blankLine after
    | .printFeed code => .whole (.printFeed code) after
    | .formFeed => .whole .formFeed after
    | .carriageReturn => .whole .carriageReturn after
    | .lineFeed => .whole .lineFeed after
    | .null => .terminator after
    | .unknown byte => .fault ⟨c.position, some byte, .unrecognizedOpcode⟩ after

end Grammar

/-- At most `n` bytes are left behind what was read. -/
def Reading.Leaves (n : Nat) : Reading → Prop
  | nothing => True
  | whole _ after | cut _ after | terminator after | fault _ after => after.rest.length ≤ n

theorem Reading.Leaves.mono {r : Reading} {m n : Nat} (h : r.Leaves m) (hmn : m ≤ n) :
    r.Leaves n := by
  cases r with
  | nothing => trivial
  | whole _ _ | cut _ _ | terminator _ | fault _ _ => exact Nat.le_trans h hmn

namespace Grammar

theorem readRaster_leaves (g : Grammar) (form : RasterForm) (length : Nat) (c : Cursor) :
    (g.readRaster form length c).Leaves c.rest.length := by
  unfold readRaster
  split
  · dsimp only
    split <;> exact RunLength.expand_rest_le _ _
  · dsimp only
    split <;> exact Cursor.take_rest_le _ _

theorem readSetting_leaves (c : Cursor) : (readSetting c).Leaves c.rest.length := by
  have hn := c.next_rest_le
  unfold readSetting
  split
  next after h => rw [h] at hn; exact hn
  next code after h =>
    rw [h] at hn
    dsimp only
    split <;> exact Nat.le_trans (Cursor.take_rest_le _ _) hn

theorem readBitImage_leaves (g : Grammar) (c : Cursor) :
    (g.readBitImage c).Leaves c.rest.length := by
  have hn := c.next_rest_le
  unfold readBitImage
  split
  next after h => rw [h] at hn; exact hn
  next mode after h =>
    rw [h] at hn
    split
    · exact hn
    · have hp := after.nextPair_rest_le
      split
      next last h => rw [h] at hp; exact Nat.le_trans hp hn
      next columns last h =>
        rw [h] at hp
        dsimp only
        split <;> exact Nat.le_trans (Cursor.take_rest_le _ _) (Nat.le_trans hp hn)

theorem readEscape_leaves (g : Grammar) (c : Cursor) : (g.readEscape c).Leaves c.rest.length := by
  have hn := c.next_rest_le
  unfold readEscape
  split
  next after h => rw [h] at hn; exact hn
  next byte after h =>
    rw [h] at hn
    split
    · exact hn
    · have hp := after.nextPair_rest_le
      split
      next last h => rw [h] at hp; exact Nat.le_trans hp hn
      next dots last h => rw [h] at hp; exact Nat.le_trans hp hn
    · exact (readSetting_leaves after).mono hn
    · exact (g.readBitImage_leaves after).mono hn
    · exact hn

/-- The bytes that a command leaves unread, when its opcode left those of `after`. -/
theorem readBehind_leaves (g : Grammar) (c after : Cursor) (byte : UInt8)
    (h : c.next = (some byte, after)) : (g.read c).Leaves after.rest.length := by
  unfold read
  rw [h]
  dsimp only
  split
  · exact g.readEscape_leaves after
  · have hp := after.nextPair_rest_le
    split
    next last h => rw [h] at hp; exact hp
    next length last h => rw [h] at hp; exact (g.readRaster_leaves _ _ _).mono hp
  · have hn := after.next_rest_le
    split
    next last h => rw [h] at hn; exact hn
    next ignored last h =>
      rw [h] at hn
      have hl := last.next_rest_le
      split
      next end_ h => rw [h] at hl; exact Nat.le_trans hl hn
      next length end_ h =>
        rw [h] at hl
        exact (g.readRaster_leaves _ _ _).mono (Nat.le_trans hl hn)
  · have hn := after.next_rest_le
    split
    next last h => rw [h] at hn; exact hn
    next kind last h => rw [h] at hn; exact hn
  all_goals exact Nat.le_refl _

theorem read_leaves (g : Grammar) (c : Cursor) : (g.read c).Leaves c.rest.length := by
  rcases hc : c.next with ⟨_ | byte, rest⟩
  · simp [read, hc, Reading.Leaves]
  · exact (g.readBehind_leaves c rest byte hc).mono (Nat.le_of_lt (Cursor.next_rest_lt hc))

/-- Every command takes at least its opcode. -/
theorem read_whole_rest_lt {g : Grammar} {c after : Cursor} {command : Command}
    (h : g.read c = .whole command after) : after.rest.length < c.rest.length := by
  rcases hc : c.next with ⟨_ | byte, rest⟩
  · simp [read, hc] at h
  · have hl := g.readBehind_leaves c rest byte hc
    rw [h] at hl
    exact Nat.lt_of_le_of_lt hl (Cursor.next_rest_lt hc)

end Grammar
end LabelStream
