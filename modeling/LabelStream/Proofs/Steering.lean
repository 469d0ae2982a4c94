import LabelStream.Proofs.Growth

/-! Which options can steer a decode. All but one of them are about drawing or telling: how far a blank
line clears, whether filler is drawn, where the picture ends, who listens. What is read next does not
depend on any of these, so decodes that differ in nothing else go abreast. -/
namespace LabelStream

namespace Pen

/-- The pen without its mark of how far down strips reach, which alone depends on what is drawn. -/
def course (pen : Pen) : Pen := { pen with ymax := 0 }

end Pen

namespace Command

theorem events_course (p : Nat) (pen : Pen) (command : Command) :
    command.events p pen.course = command.events p pen := by
  cases command <;> rfl

theorem move_course (p : Profile) (pen : Pen) (command : Command) :
    (command.move p pen).course = command.move p pen.course := by
  cases command with
  | setting code operands =>
      simp only [move]
      split <;> rfl
  | compression kind =>
      simp only [move]
      split <;> rfl
  | _ => rfl

/-- All models feed by the same distances. -/
theorem move_profile (one other : Model) (pen : Pen) (command : Command) :
    command.move one.profile pen = command.move other.profile pen := by
  have hline : one.profile.lineFeedDots = other.profile.lineFeedDots := by
    cases one <;> cases other <;> rfl
  have hform : one.profile.formFeedDots = other.profile.formFeedDots := by
    cases one <;> cases other <;> rfl
  cases command with
  | lineFeed => simp only [move, hline]
  | formFeed => simp only [move, hform]
  | _ => rfl

theorem penAfter_course (o : Options) (pen : Pen) (command : Command) :
    (command.penAfter o pen).course = command.move o.profile pen.course := by
  rw [penAfter, Bar.foldl_reach]
  exact command.move_course o.profile pen

end Command

theorem Fragment.events_course (p : Nat) (pen : Pen) (fragment : Fragment) :
    fragment.events p pen.course = fragment.events p pen := by
  cases fragment with
  | header => rfl
  | graphics => rfl
  | body command => exact command.events_course p pen

namespace Reading

/-- The phase in which a decoder is left that reads this at offset `p`. -/
def phase (p : Nat) : Reading → Phase
  | nothing => .halted .endOfStream
  | whole _ _ => .dispatch
  | cut _ _ => .halted (.truncated p)
  | terminator _ => .halted (.nullTerminator p)
  | fault f _ => .failed f

def cursor (c : Cursor) : Reading → Cursor
  | nothing => c
  | whole _ after | cut _ after | terminator after | fault _ after => after

/-- The commands that the reading begins. -/
def opcodes : Reading → Nat
  | nothing => 0
  | whole _ _ | cut _ _ | terminator _ | fault _ _ => 1

def events (p : Nat) (pen : Pen) : Reading → List Event
  | nothing => []
  | whole command _ => command.events p pen
  | cut fragment _ => fragment.events p pen
  | terminator _ => [⟨p, .terminator⟩]
  | fault f _ => f.events p

theorem events_course (p : Nat) (pen : Pen) (r : Reading) :
    r.events p pen.course = r.events p pen := by
  cases r with
  | whole command after => exact command.events_course p pen
  | cut fragment after => exact fragment.events_course p pen
  | _ => rfl

end Reading

/-- Options by which every command is read and drawn the same. They may differ in what surrounds a
decode: the bound of its surface, the size of its batches, and what is kept and logged of it. -/
structure Options.Alike (o o' : Options) : Prop where
  model : o.model = o'.model
  drawFiller : o.drawFiller = o'.drawFiller
  acceptAnyGraphicsMode : o.acceptAnyGraphicsMode = o'.acceptAnyGraphicsMode

namespace Decoder

/-- Apart from what it draws, a move is told by its reading. -/
theorem advance_reading (o : Options) (d : Decoder) :
    (d.advance o).1.phase = (d.reading o).phase d.cursor.position ∧
      (d.advance o).1.cursor = (d.reading o).cursor d.cursor ∧
      (d.advance o).1.opcodes = d.opcodes + (d.reading o).opcodes ∧
      (d.advance o).2 = (d.reading o).events d.cursor.position d.pen := by
  cases hr : d.reading o with
  | nothing => simp only [advance, hr]; exact ⟨rfl, rfl, rfl, rfl⟩
  | whole command after => simp only [advance, hr]; exact ⟨rfl, rfl, rfl, rfl⟩
  | cut fragment after =>
      simp only [advance, hr]
      cases fragment <;> exact ⟨rfl, rfl, rfl, rfl⟩
  | terminator after => simp only [advance, hr]; exact ⟨rfl, rfl, rfl, rfl⟩
  | fault f after => simp only [advance, hr]; exact ⟨rfl, rfl, rfl, rfl⟩

/-- Two decoders that differ in nothing but what was drawn. -/
structure Abreast (d other : Decoder) : Prop where
  phase : d.phase = other.phase
  cursor : d.cursor = other.cursor
  opcodes : d.opcodes = other.opcodes
  course : d.pen.course = other.pen.course

namespace Abreast

variable {o o' : Options} {d other : Decoder}

theorem isFinished (h : d.Abreast other) : d.isFinished = other.isFinished := by
  simp only [Decoder.isFinished, h.phase]

theorem reading (agree : o.acceptAnyGraphicsMode = o'.acceptAnyGraphicsMode) (h : d.Abreast other) :
    d.reading o = other.reading o' := by
  calc d.reading o
      = Grammar.read ⟨d.pen.course.compression, o.acceptAnyGraphicsMode⟩ d.cursor := rfl
    _ = Grammar.read ⟨other.pen.course.compression, o'.acceptAnyGraphicsMode⟩ other.cursor := by
      rw [h.course, h.cursor, agree]
    _ = other.reading o' := rfl

theorem advance (agree : o.acceptAnyGraphicsMode = o'.acceptAnyGraphicsMode) (h : d.Abreast other) :
    (d.advance o).1.Abreast (other.advance o').1 ∧ (d.advance o).2 = (other.advance o').2 := by
  have hreading := h.reading agree
  obtain ⟨hphase, hcursor, hopcodes, hevents⟩ := d.advance_reading o
  obtain ⟨hphase', hcursor', hopcodes', hevents'⟩ := other.advance_reading o'
  rw [hreading, h.cursor] at hphase hcursor hevents
  rw [hreading, h.opcodes] at hopcodes
  refine ⟨⟨hphase.trans hphase'.symm, hcursor.trans hcursor'.symm, hopcodes.trans hopcodes'.symm, ?_⟩,
    ?_⟩
  · rw [advance_pen, advance_pen, hreading]
    cases (other.reading o').command? with
    | none => exact h.course
    | some command =>
        calc (command.penAfter o d.pen).course
            = command.move o.profile d.pen.course := command.penAfter_course o d.pen
          _ = command.move o'.profile other.pen.course := by
            rw [h.course]
            exact command.move_profile o.model o'.model _
          _ = (command.penAfter o' other.pen).course := (command.penAfter_course o' other.pen).symm
  -- What is told of a reading does not mention how far down the picture reaches.
  · rw [hevents, hevents', ← Reading.events_course, h.course, Reading.events_course]

theorem walk (agree : o.acceptAnyGraphicsMode = o'.acceptAnyGraphicsMode) (h : d.Abreast other)
    (n : Nat) :
    (d.walk o n).1.Abreast (other.walk o' n).1 ∧ (d.walk o n).2 = (other.walk o' n).2 := by
  induction n generalizing d other with
  | zero =>
      simp only [Decoder.walk, h.isFinished, h.cursor]
      split
      · exact h.advance agree
      · exact ⟨h, rfl⟩
  | succ n ih =>
      cases hf : other.isFinished with
      | true =>
          rw [walk_of_finished o (h.isFinished.trans hf), walk_of_finished o' hf]
          exact ⟨h, rfl⟩
      | false =>
          obtain ⟨hnext, hevents⟩ := h.advance agree
          obtain ⟨hlast, hmore⟩ := ih hnext
          rw [walk_succ o (h.isFinished.trans hf), walk_succ o' hf, hevents, hmore]
          exact ⟨hlast, rfl⟩

end Abreast

theorem advance_alike {o o' : Options} (h : o.Alike o') (d : Decoder) :
    d.advance o = d.advance o' := by
  rcases o with ⟨compressionHint, trace, model, drawFiller, acceptAny, batchSize, maxWidth, maxHeight⟩
  obtain ⟨hmodel, hfiller, hmode⟩ := h
  simp only at hmodel hfiller hmode
  subst hmodel hfiller hmode
  rfl

theorem walk_alike {o o' : Options} (h : o.Alike o') (n : Nat) (d : Decoder) :
    d.walk o n = d.walk o' n := by
  induction n generalizing d with
  | zero => simp only [walk, advance_alike h]
  | succ n ih => simp only [walk, advance_alike h, ih]

theorem told_congr {o o' : Options} {capture : Octets} {n : Nat}
    (h : ((opened o capture).walk o n).2 = ((opened o' capture).walk o' n).2) :
    told o capture n = told o' capture n :=
  congrArg (preambleEvents (preambleBytes (.start capture)) ++ ·) h

theorem opened_abreast (o o' : Options) (capture : Octets) :
    (opened o capture).Abreast (opened o' capture) := by
  constructor <;> rfl

def fault? (d : Decoder) : Option Fault :=
  match d.phase with
  | .failed fault => some fault
  | .preamble | .dispatch | .halted _ => none

end Decoder

def Outcome.fault? (o : Outcome) : Option Fault :=
  match o.result with
  | .ok _ => none
  | .error failure => some failure.fault

theorem decode_fault {o : Options} {capture : Octets} {d : Decoder} {trace : Option (List Event)}
    (h : (decode o capture).result = d.result trace) : (decode o capture).fault? = d.fault? := by
  rcases d with ⟨phase, cursor, opcodes, pen, surface⟩
  rw [Outcome.fault?, h]
  cases phase <;> rfl

def Decoded.summary (d : Decoded) : Event := ⟨d.consumed, .finished d.halt d.width d.height⟩

namespace Decoder.Abreast

variable {d other : Decoder}

theorem fault (h : d.Abreast other) : d.fault? = other.fault? := by
  simp only [fault?, h.phase]

theorem decoded (h : d.Abreast other) (trace trace' : Option (List Event)) :
    other.decoded trace' =
      { d.decoded trace with
        surface := other.surface
        height := other.pen.ymax % imageSizes
        pen := { d.pen with ymax := other.pen.ymax }
        trace := trace' } := by
  rcases d with ⟨phase, cursor, opcodes, ⟨xpos, ypos, xmin, xmax, ymax, compression⟩, surface⟩
  rcases other with
    ⟨phase', cursor', opcodes', ⟨xpos', ypos', xmin', xmax', ymax', compression'⟩, surface'⟩
  obtain ⟨hphase, hcursor, hopcodes, hcourse⟩ := h
  simp only [Pen.course, Pen.mk.injEq] at hphase hcursor hopcodes hcourse
  obtain ⟨rfl, rfl, rfl, rfl, _, rfl⟩ := hcourse
  subst hphase hcursor hopcodes
  rfl

end Decoder.Abreast

/-- Of all options only the one that lets any graphics mode pass has a say in how a decode goes. The
others show in the picture, in how far down it reaches and in whether there is a trace. -/
theorem drawing_options_never_steer {o o' : Options}
    (agree : o.acceptAnyGraphicsMode = o'.acceptAnyGraphicsMode) (capture : Octets) :
    let one := decode o capture
    let other := decode o' capture
    one.fault? = other.fault? ∧
    other.decoded =
      { one.decoded with
        surface := other.decoded.surface
        height := other.decoded.height
        pen := { one.decoded.pen with ymax := other.decoded.pen.ymax }
        trace := other.decoded.trace } ∧
    ∃ told,
      one.decoded.trace = (if o.trace then some (told ++ [one.decoded.summary]) else none) ∧
      other.decoded.trace = (if o'.trace then some (told ++ [other.decoded.summary]) else none) := by
  intro one other
  obtain ⟨n, hf⟩ := Decoder.exists_walk_finished o (Decoder.opened o capture)
  obtain ⟨abreast, same⟩ := (Decoder.opened_abreast o o' capture).walk agree n
  have hf' := abreast.isFinished.symm.trans hf
  have hone := decode_result o capture hf
  have hother := decode_result o' capture hf'
  refine ⟨?fault, ?fields, Decoder.told o capture n, ?trace, ?trace'⟩
  case fault => rw [decode_fault hone, decode_fault hother, abreast.fault]
  case fields =>
    rw [decode_decoded hone, decode_decoded hother]
    exact abreast.decoded _ _
  case trace =>
    rw [decode_decoded hone]
    rfl
  case trace' =>
    rw [decode_decoded hother, Decoder.told_congr same]
    rfl

/-- A reset, a blank line, and a byte that is no opcode. -/
def strayBehindBlank : Octets := [0x1B, 0x40, 0x5A, 0xFE]

/-- Options that draw as much as any, and tell. -/
def Options.lavish : Options := ⟨true, true, .ql1060, true, false, 1, 4, 2000⟩

/-- Options that draw as little as any. -/
def Options.frugal : Options := ⟨false, false, .generic, false, false, 7, 0, 0⟩

theorem strayBehindBlank_lavish_frugal :
    Options.lavish.acceptAnyGraphicsMode = Options.frugal.acceptAnyGraphicsMode ∧
    (decode .lavish strayBehindBlank).fault? = (decode .frugal strayBehindBlank).fault? ∧
    (decode .lavish strayBehindBlank).fault? = some ⟨3, some 0xFE, .unrecognizedOpcode⟩ ∧
    (decode .lavish strayBehindBlank).decoded.pen.xmax = 1 ∧
    (decode .frugal strayBehindBlank).decoded.pen.xmax = 1 ∧
    (decode .lavish strayBehindBlank).decoded.height = 1296 ∧
    (decode .frugal strayBehindBlank).decoded.height = 384 := by
  have agree : Options.lavish.acceptAnyGraphicsMode = Options.frugal.acceptAnyGraphicsMode := rfl
  obtain ⟨hfault, hfields, _⟩ := drawing_options_never_steer agree strayBehindBlank
  have hl : ((Decoder.opened .lavish strayBehindBlank).walk .lavish 3).1.isFinished = true := rfl
  have hf : ((Decoder.opened .frugal strayBehindBlank).walk .frugal 3).1.isFinished = true := rfl
  have lavish := decode_result .lavish strayBehindBlank hl
  have frugal := decode_result .frugal strayBehindBlank hf
  have hxmax : (decode .lavish strayBehindBlank).decoded.pen.xmax = 1 := by
    rw [decode_decoded lavish]
    decide +kernel
  refine ⟨agree, hfault, ?_, hxmax, ?_, ?_, ?_⟩
  · rw [decode_fault lavish]
    rfl
  · rw [hfields]
    exact hxmax
  · rw [decode_decoded lavish]
    decide +kernel
  · rw [decode_decoded frugal]
    decide +kernel

end LabelStream
