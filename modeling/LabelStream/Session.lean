import LabelStream.Decoder
import LabelStream.Journal

/-! A decode in progress, which can be stopped between any two commands, and the result it ends in. -/
namespace LabelStream

/-- Image sizes keep this many values and wrap around beyond them. -/
def imageSizes : Nat := Nat.pow 2 32

/-- A decode that has come to an end. -/
structure Decoded where
  surface : Surface
  width : Nat
  height : Nat
  pen : Pen
  halt : Halt
  consumed : Nat
  opcodes : Nat
  trace : Option (List Event)

namespace Decoded

def isEmpty (d : Decoded) : Bool := d.width == 0 || d.height == 0

/-- Black dots inside the reported size. -/
def blackPixels (d : Decoded) : Nat := d.surface.countBlack d.width d.height

end Decoded

/-- A fatal fault together with what was drawn before it. -/
structure Failure where
  fault : Fault
  decoded : Decoded

/-- A result and the journal of the decode that led to it. -/
structure Outcome where
  result : Except Failure Decoded
  journal : Journal

def Outcome.decoded (o : Outcome) : Decoded :=
  match o.result with
  | .ok decoded => decoded
  | .error failure => failure.decoded

inductive Progress where
  | more
  | halted (halt : Halt)
  | failed (fault : Fault)
  deriving Repr, DecidableEq

structure Session where
  decoder : Decoder
  journal : Journal

namespace Session

def start (o : Options) (sink : Sink) (capture : Octets) : Session :=
  ⟨.start o capture, .start sink⟩

def progress (s : Session) : Progress :=
  match s.decoder.phase with
  | .halted halt => .halted halt
  | .failed fault => .failed fault
  | .preamble | .dispatch => .more

/-- Leaves the preamble behind, if that has not happened yet. -/
def enter (s : Session) : Session :=
  match s.decoder.phase with
  | .preamble =>
    let bytes := Decoder.preambleBytes s.decoder.cursor
    let journal := s.journal.recordWith fun _ => Decoder.preambleEvents bytes
    ⟨s.decoder.skipPreamble, journal.logIf (!bytes.isEmpty) (.preambleSkipped bytes.length)⟩
  | .dispatch | .halted _ | .failed _ => s

def advance (o : Options) : Session → Session
  | ⟨decoder, journal⟩ =>
    let (decoder, events) := decoder.advance o
    ⟨decoder, journal.recordAll events⟩

def steps (o : Options) : Nat → Session → Session
  | 0, s => if !s.decoder.isFinished && s.decoder.cursor.atEnd then s.advance o else s
  | n + 1, s => if s.decoder.isFinished then s else steps o n (s.advance o)

/-- Handles a batch of up to `budget` commands, and always at least one. A session that is finished
stays as it is. -/
def step (o : Options) (budget : Nat) (s : Session) : Session := steps o (max budget 1) s.enter

theorem advance_decoder (o : Options) (s : Session) :
    (s.advance o).decoder = (s.decoder.advance o).1 := rfl

theorem steps_remaining_le (o : Options) (n : Nat) (s : Session) :
    (steps o n s).decoder.remaining ≤ s.decoder.remaining := by
  induction n generalizing s with
  | zero =>
    unfold steps
    split
    next h =>
      simp only [Bool.and_eq_true, Bool.not_eq_true'] at h
      exact Nat.le_of_lt (s.decoder.advance_remaining_lt o h.1)
    next => exact Nat.le_refl _
  | succ n ih =>
    unfold steps
    split
    next => exact Nat.le_refl _
    next h =>
      simp only [Bool.not_eq_true] at h
      exact Nat.le_trans (ih _) (Nat.le_of_lt (s.decoder.advance_remaining_lt o h))

theorem enter_remaining_le (s : Session) : s.enter.decoder.remaining ≤ s.decoder.remaining := by
  unfold enter
  split
  next h => exact s.decoder.skipPreamble_remaining_le (by simp [Decoder.isFinished, h])
  all_goals exact Nat.le_refl _

theorem enter_isFinished (s : Session) : s.enter.decoder.isFinished = s.decoder.isFinished := by
  unfold enter
  split
  next h => simp [Decoder.isFinished, Decoder.skipPreamble, h]
  all_goals rfl

theorem enter_of_finished {s : Session} (h : s.decoder.isFinished = true) : s.enter = s := by
  unfold enter
  split
  next hp => simp [Decoder.isFinished, hp] at h
  all_goals rfl

/-- A finished session stays as it is. -/
theorem step_of_finished (o : Options) (budget : Nat) (s : Session)
    (h : s.decoder.isFinished = true) : s.step o budget = s := by
  obtain ⟨n, hn⟩ : ∃ n, max budget 1 = n + 1 := ⟨max budget 1 - 1, by omega⟩
  unfold step
  rw [enter_of_finished h, hn, steps, if_pos h]

/-- A batch of an unfinished decode ends it or takes a byte. -/
theorem step_remaining_lt (o : Options) (budget : Nat) (s : Session)
    (h : s.decoder.isFinished = false) :
    (s.step o budget).decoder.remaining < s.decoder.remaining := by
  obtain ⟨n, hn⟩ : ∃ n, max budget 1 = n + 1 := ⟨max budget 1 - 1, by omega⟩
  have he : s.enter.decoder.isFinished = false := by rw [s.enter_isFinished, h]
  unfold step
  rw [hn, steps, if_neg (by simp [he])]
  calc (steps o n (s.enter.advance o)).decoder.remaining
      ≤ (s.enter.advance o).decoder.remaining := steps_remaining_le o n _
    _ < s.enter.decoder.remaining := s.enter.decoder.advance_remaining_lt o he
    _ ≤ s.decoder.remaining := s.enter_remaining_le

def run (o : Options) (s : Session) : Session :=
  if _h : s.decoder.isFinished then s else run o (s.step o o.batchSize)
termination_by s.decoder.remaining
decreasing_by exact step_remaining_lt o _ s (by simpa using _h)

/-- Closes the session. One that is not finished counts as cancelled. -/
def finish (s : Session) : Decoded × Journal :=
  let d := s.decoder
  let halt := match d.phase with
    | .halted halt => halt
    | .failed fault => .aborted fault.position
    | .preamble | .dispatch => .cancelled
  let width := d.pen.xmax % imageSizes
  let height := d.pen.ymax % imageSizes
  let journal := s.journal.record ⟨d.position, .finished halt width height⟩
  (⟨d.surface, width, height, d.pen, halt, d.position, d.opcodes, journal.trace?⟩, journal)

def closing (o : Options) (d : Decoded) (j : Journal) : Journal :=
  ((j.logIf (o.compressionHint && !d.pen.compression) .compressionMissing).logIf
    (d.surface.clipped != 0)
    (.stripsClipped d.surface.clipped d.surface.maxWidth d.surface.maxHeight)).log
    (.decoded d.opcodes d.consumed d.halt d.width d.height)

/-- Closes the session and states how it ended. -/
def conclude (o : Options) (s : Session) : Outcome :=
  match s.decoder.phase with
  | .failed fault =>
    let (decoded, journal) := finish ⟨s.decoder, s.journal.log (.aborted fault)⟩
    ⟨.error ⟨fault, decoded⟩, closing o decoded journal⟩
  | .preamble | .dispatch | .halted _ =>
    let (decoded, journal) := s.finish
    ⟨.ok decoded, closing o decoded journal⟩

end Session

/-- Decodes a capture and sends its events to a sink. -/
def decodeWithSink (o : Options) (sink : Sink) (capture : Octets) : Outcome :=
  ((Session.start o sink capture).run o).conclude o

/-- Decodes a capture; the result holds the trace if the options ask for one. -/
def decode (o : Options) (capture : Octets) : Outcome :=
  decodeWithSink o (if o.trace then .keep else .discard) capture

end LabelStream
