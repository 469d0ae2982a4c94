import LabelStream.Options
import LabelStream.Trace

/-! The machine that draws a stream, one command at a time. It holds no trace: every move returns
the events that it gives rise to, so the picture cannot depend on who is listening. -/
namespace LabelStream

inductive Phase where
  /-- Before the first escape. -/
  | preamble
  /-- The cursor stands where a command is expected. -/
  | dispatch
  | halted (halt : Halt)
  | failed (fault : Fault)
  deriving Repr, DecidableEq

structure Decoder where
  phase : Phase
  cursor : Cursor
  /-- Commands begun so far. -/
  opcodes : Nat
  pen : Pen
  surface : Surface

namespace Decoder

def start (o : Options) (capture : Octets) : Decoder where
  phase := .preamble
  cursor := .start capture
  opcodes := 0
  pen := .home
  surface := .blank o.maxWidth o.maxHeight

def isFinished (d : Decoder) : Bool :=
  match d.phase with
  | .halted _ | .failed _ => true
  | .preamble | .dispatch => false

/-- Bytes read so far. While commands are dispatched the next opcode byte is already read. -/
def position (d : Decoder) : Nat :=
  match d.phase with
  | .dispatch => if d.cursor.atEnd then d.cursor.position else d.cursor.position + 1
  | _ => d.cursor.position

/-- The bytes before the first escape, each with the event that tells of it. -/
def preambleEvents (bytes : Octets) : List Event :=
  bytes.zipIdx.map fun (byte, i) => ⟨i, .skipped i byte⟩

def preambleBytes (c : Cursor) : Octets := c.rest.takeWhile (· != escapeByte)

/-- Moves to the first escape or, without one, to the end of the data. -/
def skipPreamble (d : Decoder) : Decoder :=
  { d with
    phase := .dispatch
    cursor := (d.cursor.take (preambleBytes d.cursor).length).2 }

def visibleBars (o : Options) (bars : List Bar) : List Bar :=
  if o.drawFiller then bars else bars.filter (!·.filler)

def perform (o : Options) (command : Command) : Decoder → Decoder
  | ⟨phase, cursor, opcodes, pen, surface⟩ =>
    let bars := visibleBars o (command.bars o.profile pen)
    ⟨phase, cursor, opcodes, bars.foldl Bar.reach (command.move o.profile pen),
      bars.foldl Bar.paint surface⟩

def reading (o : Options) (d : Decoder) : Reading :=
  Grammar.read ⟨d.pen.compression, o.acceptAnyGraphicsMode⟩ d.cursor

/-- Begins the next command: its opcode counts, and `after` is read. -/
def enter (phase : Phase) (after : Cursor) (d : Decoder) : Decoder :=
  { d with phase := phase, cursor := after, opcodes := d.opcodes + 1 }

/-- Handles one command, or halts where none is left. The events are those of this command. -/
def advance (o : Options) (d : Decoder) : Decoder × List Event :=
  let p := d.cursor.position
  let pen := d.pen
  match d.reading o with
  | .nothing => ({ d with phase := .halted .endOfStream }, [])
  | .whole command after => ((d.enter .dispatch after).perform o command, command.events p pen)
  | .cut fragment after =>
    let d := d.enter (.halted (.truncated p)) after
    let d := match fragment with
      | .body command => d.perform o command
      | .header | .graphics => d
    (d, fragment.events p pen)
  | .terminator after => (d.enter (.halted (.nullTerminator p)) after, [⟨p, .terminator⟩])
  | .fault fault after => (d.enter (.failed fault) after, fault.events p)

/-- Bounds the commands that are left. -/
def remaining (d : Decoder) : Nat := if d.isFinished then 0 else d.cursor.rest.length + 1

theorem remaining_of_unfinished {d : Decoder} (h : d.isFinished = false) :
    d.remaining = d.cursor.rest.length + 1 := by
  simp [remaining, h]

/-- Every move either ends the decode or takes a byte. -/
theorem advance_remaining_lt (o : Options) (d : Decoder) (h : d.isFinished = false) :
    (d.advance o).1.remaining < d.remaining := by
  rw [remaining_of_unfinished h]
  unfold advance
  split
  next => exact Nat.succ_pos _
  next command after hr =>
    have := Grammar.read_whole_rest_lt hr
    rw [remaining_of_unfinished (by rfl)]
    exact Nat.succ_lt_succ this
  next fragment after hr =>
    cases fragment <;> exact Nat.succ_pos _
  next => exact Nat.succ_pos _
  next => exact Nat.succ_pos _

theorem skipPreamble_remaining_le (d : Decoder) (h : d.isFinished = false) :
    d.skipPreamble.remaining ≤ d.remaining := by
  rw [remaining_of_unfinished h, remaining_of_unfinished (by rfl)]
  exact Nat.succ_le_succ (Cursor.take_rest_le _ _)

end Decoder
end LabelStream
