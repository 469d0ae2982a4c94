import LabelStream.Proofs.Passage

/-! A byte that stops a decode. The command that it stands in is read but not performed, so nothing
is drawn but what the capture up to that command draws. -/
namespace LabelStream

/-- How far into its command the byte stands that stops the decode, and which byte it is. -/
def Ending.stop? : Ending → Option (Nat × UInt8)
  | clean | cut => none
  | terminator => some (0, 0)
  | refused offset byte _ => some (offset, byte)

/-- What a stop tells in a command that starts at `p`. -/
def Ending.events (p : Nat) : Ending → List Event
  | clean | cut => []
  | terminator => [⟨p, .terminator⟩]
  | refused offset byte kind => Fault.events p ⟨p + offset, some byte, kind⟩

theorem Ends.stop_byte {g : Grammar} {bytes : Octets} {ending : Ending} {offset : Nat} {byte : UInt8}
    (h : Ends g bytes ending) (hs : ending.stop? = some (offset, byte)) :
    bytes[offset]? = some byte := by
  cases h with
  | clean => cases hs
  | cut present missing spelt => cases hs
  | terminator tail => cases hs; rfl
  | refused refusal =>
      cases hs
      cases refusal <;> rfl

theorem Decoder.advance_stop {o : Options} {s : Sheet} {tail : Octets} {ending : Ending} {offset : Nat}
    {byte : UInt8} (h : Ends ⟨s.pen.compression, o.acceptAnyGraphicsMode⟩ tail ending)
    (hs : ending.stop? = some (offset, byte)) (p n : Nat) :
    (ready ⟨p, tail⟩ n s).advance o =
      (⟨ending.phase p, ⟨p + offset + 1, tail.drop (offset + 1)⟩, n + 1, s.pen, s.surface⟩,
        ending.events p) := by
  have hr := reading_ready o ⟨p, tail⟩ n s
  cases h with
  | clean => cases hs
  | cut present missing spelt => cases hs
  | terminator tail =>
      cases hs
      rw [Grammar.read_terminator] at hr
      simp only [advance, hr]
      rfl
  | refused refusal =>
      cases hs
      rw [Grammar.read_refused refusal] at hr
      simp only [advance, hr]
      rfl

namespace Passage

variable {o : Options} {q : Passage o}

/-- The decoder that was stopped in the command behind the passage. What it left unread is of no
account. -/
def stopped (q : Passage o) (ending : Ending) (offset : Nat) (rest : Octets) : Decoder :=
  ⟨ending.phase q.size, ⟨q.size + offset + 1, rest⟩, q.words.length + 1, q.drawn.pen, q.drawn.surface⟩

theorem stopped_position (q : Passage o) {ending : Ending} {offset : Nat} {byte : UInt8}
    (hs : ending.stop? = some (offset, byte)) :
    (q.stopped ending offset []).position = q.size + offset + 1 := by
  cases ending with
  | clean => cases hs
  | cut => cases hs
  | terminator => rfl
  | refused offset byte kind => rfl

theorem Tells.stop {told : List Event} (h : q.Tells told) {tail : Octets}
    (he : Escaped (q.words.flatten ++ tail)) {ending : Ending} {offset : Nat} {byte : UInt8}
    (hends : Ends ⟨q.mode, o.acceptAnyGraphicsMode⟩ tail ending)
    (hs : ending.stop? = some (offset, byte)) :
    (decode o (q.before tail)).result = (q.stopped ending offset []).result
      (if o.trace then
        some (told ++ ending.events q.size ++ [(q.stopped ending offset []).summary])
      else none) := by
  rw [← q.drawn_compression] at hends
  have ha : (q.behind tail).advance o =
      (q.stopped ending offset (tail.drop (offset + 1)), ending.events q.size) :=
    Decoder.advance_stop hends hs q.size q.words.length
  have hf : (q.stopped ending offset (tail.drop (offset + 1))).isFinished = true :=
    Ending.phase_finished rfl
  have hw : (q.behind tail).walk o 1 =
      (q.stopped ending offset (tail.drop (offset + 1)), ending.events q.size) := by
    rw [Decoder.walk_succ o rfl, ha, Decoder.walk_of_finished o hf, List.append_nil]
  rw [h tail he 1 _ _ hw hf]
  -- A stopped decoder shows of its cursor only the position.
  cases ending with
  | clean => cases hs
  | cut => cases hs
  | terminator => rfl
  | refused offset byte kind => rfl

end Passage

/-- The byte at `p` stopped the decode: a fault is laid to it, or it was taken for a terminator. -/
def StoppedAt (p : Nat) : Except Failure Decoded → Prop
  | .error failure => failure.fault.position = p
  | .ok decoded => decoded.halt = .nullTerminator p

/-- Decodes stop at endings that stop them, and nowhere else. -/
theorem Parse.Of.stop {o : Options} {capture : Octets} {parse : Parse} (h : parse.Of o capture) {p : Nat}
    (hs : StoppedAt p (decode o capture).result) :
    ∃ offset byte, parse.ending.stop? = some (offset, byte) ∧ p = parse.behind + offset := by
  have ha : parse.Answered (decode o capture).result := h.answered _
  unfold Parse.Answered at ha
  cases hending : parse.ending with
  | clean =>
      rw [hending] at ha
      obtain ⟨d, hr, hhalt⟩ := ha
      rw [hr, StoppedAt, hhalt] at hs
      cases hs
  | cut =>
      rw [hending] at ha
      obtain ⟨d, hr, hhalt⟩ := ha
      rw [hr, StoppedAt, hhalt] at hs
      cases hs
  | terminator =>
      rw [hending] at ha
      obtain ⟨d, hr, hhalt⟩ := ha
      rw [hr, StoppedAt, hhalt] at hs
      cases hs
      exact ⟨0, 0, rfl, rfl⟩
  | refused offset byte kind =>
      rw [hending] at ha
      obtain ⟨d, hr, _⟩ := ha
      rw [hr] at hs
      exact ⟨offset, byte, rfl, hs.symm⟩

/-- The byte at `p` is the one to blame for how the decode of the capture ended. -/
def Blamed (capture : Octets) (p : Nat) : Except Failure Decoded → Prop
  | .error failure => (∃ byte, failure.fault.byte = some byte ∧ capture[p]? = some byte) ∧
      failure.fault.position = p ∧ failure.decoded.halt = .aborted p
  | .ok decoded => capture[p]? = some 0 ∧ decoded.halt = .nullTerminator p

theorem Passage.blamed_stopped {o : Options} (q : Passage o) {tail : Octets} {ending : Ending}
    {offset : Nat} {byte : UInt8} (hends : Ends ⟨q.mode, o.acceptAnyGraphicsMode⟩ tail ending)
    (hs : ending.stop? = some (offset, byte)) (trace : Option (List Event)) :
    Blamed (q.before tail) (q.size + offset) ((q.stopped ending offset []).result trace) := by
  have hbyte : (q.before tail)[q.size + offset]? = some byte := by
    rw [← hends.stop_byte hs, before, ← List.append_assoc, size, ← List.length_append,
      List.getElem?_append_right (Nat.le_add_right _ _), Nat.add_sub_cancel_left]
  cases ending with
  | clean => cases hs
  | cut => cases hs
  | terminator => cases hs; exact ⟨hbyte, rfl⟩
  | refused offset byte kind => cases hs; exact ⟨⟨byte, rfl, hbyte⟩, rfl, rfl⟩

theorem Blamed.stoppedAt {capture : Octets} {p : Nat} {result : Except Failure Decoded}
    (h : Blamed capture p result) : StoppedAt p result := by
  cases result with
  | error failure => exact h.2.1
  | ok decoded => exact h.2

theorem StoppedAt.passage {o : Options} {capture : Octets} {p : Nat}
    (h : StoppedAt p (decode o capture).result) :
    ∃ (q : Passage o) (tail : Octets) (ending : Ending) (offset : Nat) (byte : UInt8),
      capture = q.before tail ∧ Escaped (q.words.flatten ++ tail) ∧
      Ends ⟨q.mode, o.acceptAnyGraphicsMode⟩ tail ending ∧ ending.stop? = some (offset, byte) ∧
      p = q.size + offset := by
  obtain ⟨parse, hof⟩ := Parse.exists_of o capture
  obtain ⟨offset, byte, hs, hp⟩ := hof.stop h
  obtain ⟨q, tail, hpre, hw, hc, he, hends⟩ := hof.passage
  rw [Parse.behind, ← hpre, ← hw] at hp
  exact ⟨q, tail, parse.ending, offset, byte, hc, he, hends, hs, hp⟩

theorem StoppedAt.consumed {o : Options} {capture : Octets} {p : Nat}
    (h : StoppedAt p (decode o capture).result) : (decode o capture).decoded.consumed = p + 1 := by
  obtain ⟨q, tail, ending, offset, byte, rfl, he, hends, hs, rfl⟩ := h.passage
  obtain ⟨told, ht⟩ := q.exists_tells
  rw [decode_decoded (ht.stop he hends hs)]
  exact q.stopped_position hs

/-- A command that stops a decode leaves no mark. What the decode leaves was there when it came to
that command, which is where decoding the capture up to it ends. -/
theorem stop_leaves_no_mark (o : Options) (capture : Octets) (p : Nat)
    (stops : StoppedAt p (decode o capture).result) :
    Blamed capture p (decode o capture).result ∧
    ∃ (parse : Parse) (offset : Nat) (byte : UInt8), parse.Of o capture ∧
      parse.ending.stop? = some (offset, byte) ∧ p = parse.behind + offset ∧
      ∃ stopped cut, (decode o capture).decoded = stopped ∧
        (decode o (capture.take parse.behind)).result = .ok cut ∧ cut.halt = .endOfStream ∧
        stopped.consumed = p + 1 ∧ cut.consumed = parse.behind ∧
        stopped.opcodes = parse.words.length + 1 ∧ cut.opcodes = parse.words.length ∧
        cut.pen = stopped.pen ∧ cut.surface = stopped.surface ∧
        (o.trace = true → ∃ told more, stopped.trace = some (told ++ more) ∧
          cut.trace =
            some (told ++ [⟨parse.behind, .finished .endOfStream cut.width cut.height⟩])) := by
  obtain ⟨parse, h⟩ := Parse.exists_of o capture
  obtain ⟨offset, byte, hs, hp⟩ := h.stop stops
  obtain ⟨q, tail, hpre, hw, hc, he, hends⟩ := h.passage
  obtain ⟨told, ht⟩ := q.exists_tells
  have hsize : parse.behind = q.size := by rw [Parse.behind, ← hpre, ← hw, Passage.size]
  -- One passage serves both decodes, with the stopping command behind it and with nothing.
  have hstop := ht.stop he hends hs
  have hcut := ht.closed he.of_append
  rw [← hc] at hstop
  rw [← List.take_zero, ← q.before_take tail 0, ← hc, Nat.add_zero, ← hsize] at hcut
  refine ⟨?blame, parse, offset, byte, h, hs, hp, _, _, rfl, hcut, ?left⟩
  case blame =>
    rw [hstop, hc, hp, hsize]
    exact q.blamed_stopped hends hs _
  case left =>
    rw [decode_decoded hstop, hsize, hp, hsize, ← hw]
    refine ⟨rfl, q.stopped_position hs, rfl, rfl, rfl, rfl, rfl, ?trace⟩
    case trace =>
      intro ho
      simp only [ho, if_true]
      exact ⟨told, _, congrArg some (List.append_assoc _ _ _), rfl⟩

/-- A reset, a blank line, and graphics in a mode that is refused. -/
def refusedGraphics : Octets := [0x1B, 0x40, 0x5A, 0x1B, 0x2A, 0x20, 0xFF]

theorem refusedGraphics_leaves_no_mark :
    StoppedAt 5 (decode .traced refusedGraphics).result ∧
    Blamed refusedGraphics 5 (decode .traced refusedGraphics).result ∧
    ∃ (parse : Parse) (offset : Nat) (byte : UInt8), parse.Of .traced refusedGraphics ∧
      parse.ending.stop? = some (offset, byte) ∧ 5 = parse.behind + offset ∧
      ∃ stopped cut, (decode .traced refusedGraphics).decoded = stopped ∧
        (decode .traced (refusedGraphics.take parse.behind)).result = .ok cut ∧
        stopped.consumed = 6 ∧ cut.pen = stopped.pen ∧ cut.surface = stopped.surface := by
  have hstops : StoppedAt 5 (decode .traced refusedGraphics).result := by
    have hf : ((Decoder.opened .traced refusedGraphics).walk .traced 3).1.isFinished = true := rfl
    rw [decode_result .traced refusedGraphics hf]
    rfl
  obtain ⟨hblamed, parse, offset, byte, hof, hs, hp, stopped, cut, hd, hcut, _, hconsumed, _, _, _, hpen,
    hsurface, _⟩ := stop_leaves_no_mark .traced refusedGraphics 5 hstops
  exact ⟨hstops, hblamed, parse, offset, byte, hof, hs, hp, stopped, cut, hd, hcut, hconsumed, hpen,
    hsurface⟩

end LabelStream
