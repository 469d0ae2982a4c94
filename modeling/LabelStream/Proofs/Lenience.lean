import LabelStream.Proofs.Strokes
import LabelStream.Proofs.TracePositions

/-! Bit images in any graphics mode. A decoder that accepts them all does as one that does not, up to the
first mode that is refused, and goes on from there. -/
namespace LabelStream

namespace Options

def strict (o : Options) : Options := { o with acceptAnyGraphicsMode := false }

def lenient (o : Options) : Options := { o with acceptAnyGraphicsMode := true }

end Options

namespace Reading

/-- The mode of a bit image is to blame. -/
def RefusesMode (r : Reading) : Prop :=
  ∃ f after, r = .fault f after ∧ f.kind = .unsupportedGraphicsMode

theorem Leaves.cursor_le {r : Reading} {n : Nat} (h : r.Leaves n) (present : r ≠ .nothing) (c : Cursor) :
    (r.cursor c).rest.length ≤ n := by
  cases r with
  | nothing => exact absurd rfl present
  | _ => exact h

end Reading

namespace Grammar

/-- Only a strict reader refuses a mode, and it does so as soon as the mode is read. -/
theorem refusesMode_bytes {g : Grammar} {c : Cursor} (h : (g.read c).RefusesMode) :
    g.lenient = false ∧ ∃ mode tail, c.rest = escapeByte :: 0x2A :: mode :: tail ∧
      g.read c = .fault ⟨c.position + 2, some mode, .unsupportedGraphicsMode⟩ ⟨c.position + 3, tail⟩ := by
  obtain ⟨f, after, hr, hkind⟩ := h
  have hfound := g.found c
  rw [hr] at hfound ⊢
  cases hfound with
  | refused refusal =>
      cases hkind
      generalize c.rest = bytes at refusal ⊢
      cases refusal with
      | graphics tail other strict => exact ⟨strict, _, tail, rfl, rfl⟩

variable (compressed : Bool)

theorem readBitImage_agree (c : Cursor) : (readBitImage ⟨compressed, false⟩ c).RefusesMode ∨
    readBitImage ⟨compressed, true⟩ c = readBitImage ⟨compressed, false⟩ c := by
  rcases c with ⟨p, _ | ⟨mode, bytes⟩⟩
  · exact .inr rfl
  by_cases known : mode = bitImageMode
  · subst known
    exact .inr rfl
  · refine .inl ⟨⟨p, some mode, .unsupportedGraphicsMode⟩, ⟨p + 1, bytes⟩, ?_, rfl⟩
    simp only [readBitImage, Cursor.next, if_pos (And.intro known trivial)]

theorem readEscape_agree (c : Cursor) : (readEscape ⟨compressed, false⟩ c).RefusesMode ∨
    readEscape ⟨compressed, true⟩ c = readEscape ⟨compressed, false⟩ c := by
  rcases c with ⟨p, _ | ⟨byte, bytes⟩⟩
  · exact .inr rfl
  simp only [readEscape, Cursor.next]
  cases Escape.ofByte byte with
  | bitImage => exact readBitImage_agree compressed ⟨p + 1, bytes⟩
  | _ => exact .inr rfl

theorem read_agree (c : Cursor) : (read ⟨compressed, false⟩ c).RefusesMode ∨
    read ⟨compressed, true⟩ c = read ⟨compressed, false⟩ c := by
  rcases c with ⟨p, _ | ⟨byte, bytes⟩⟩
  · exact .inr rfl
  simp only [read, Cursor.next]
  cases Opcode.ofByte byte with
  | escape => exact readEscape_agree compressed ⟨p + 1, bytes⟩
  | _ => exact .inr rfl

theorem read_anyMode_leaves (p : Nat) (mode : UInt8) (tail : Octets) :
    (read ⟨compressed, true⟩ ⟨p, escapeByte :: 0x2A :: mode :: tail⟩).Leaves tail.length := by
  have accepted : ¬ (mode ≠ bitImageMode ∧ true = false) := fun h => Bool.noConfusion h.2
  rw [read_bitImage]
  simp only [readBitImage, Cursor.next, if_neg accepted]
  have hp := Cursor.nextPair_rest_le ⟨p + 2 + 1, tail⟩
  split
  next last h => rw [h] at hp; exact hp
  next columns last h =>
    rw [h] at hp
    split <;> exact Nat.le_trans (Cursor.take_rest_le _ _) hp

/-- A bit image whose mode is accepted is read at least to behind the mode. -/
theorem read_anyMode_position {c : Cursor} {mode : UInt8} {tail : Octets}
    (h : c.rest = escapeByte :: 0x2A :: mode :: tail) :
    c.position + 3 ≤ ((read ⟨compressed, true⟩ c).cursor c).position := by
  rcases c with ⟨p, bytes⟩
  change bytes = _ at h
  subst h
  have present := read_ne_nothing ⟨compressed, true⟩
    (c := ⟨p, escapeByte :: 0x2A :: mode :: tail⟩) (List.cons_ne_nil _ _)
  have hlength := read_length ⟨compressed, true⟩ ⟨p, escapeByte :: 0x2A :: mode :: tail⟩
  have hleft := (read_anyMode_leaves compressed p mode tail).cursor_le present
    ⟨p, escapeByte :: 0x2A :: mode :: tail⟩
  simp only [List.length_cons] at hlength
  change p + 3 ≤ _
  omega

end Grammar

namespace Decoder

variable (o : Options)

theorem advance_agree (d : Decoder) :
    (d.reading o.strict).RefusesMode ∨ d.advance o.lenient = d.advance o.strict := by
  rcases Grammar.read_agree d.pen.compression d.cursor with refused | same
  · exact .inl refused
  · right
    have hr : d.reading o.lenient = d.reading o.strict := same
    simp only [advance, hr]
    rfl

theorem refused_present {d : Decoder} (h : (d.reading o.strict).RefusesMode) :
    d.cursor.atEnd = false := by
  obtain ⟨_, _, _, hbytes, _⟩ := Grammar.refusesMode_bytes h
  rw [Cursor.atEnd, hbytes]
  rfl

/-- A decoder that is strict refuses a mode without drawing. One that is lenient gets past the mode. -/
theorem advance_refused {d : Decoder} (h : (d.reading o.strict).RefusesMode) :
    (∃ mode, (d.advance o.strict).1.phase =
      .failed ⟨d.cursor.position + 2, some mode, .unsupportedGraphicsMode⟩) ∧
    (d.advance o.strict).1.opcodes = d.opcodes + 1 ∧ (d.advance o.strict).1.sheet = d.sheet ∧
    (d.advance o.lenient).1.opcodes = d.opcodes + 1 ∧
    d.cursor.position + 3 ≤ (d.advance o.lenient).1.cursor.position := by
  obtain ⟨_, mode, tail, hbytes, hr⟩ := Grammar.refusesMode_bytes h
  change d.reading o.strict = _ at hr
  obtain ⟨hphase, _, hopcodes, _⟩ := d.advance_reading o.strict
  have hsheet := d.advance_sheet o.strict
  rw [hr] at hphase hopcodes hsheet
  refine ⟨⟨mode, hphase⟩, hopcodes, hsheet, advance_opcodes o.lenient (refused_present o h), ?_⟩
  rw [(d.advance_reading o.lenient).2.1]
  exact Grammar.read_anyMode_position d.pen.compression hbytes

/-- Decoders go abreast, whether they are strict or lenient, until the strict one refuses a mode. -/
theorem walk_agree (n : Nat) (d : Decoder) : d.walk o.lenient n = d.walk o.strict n ∨
    ∃ m before, (d.walk o.lenient m).1 = before ∧ before.isFinished = false ∧
      (before.reading o.strict).RefusesMode ∧ (d.walk o.strict n).1 = (before.advance o.strict).1 := by
  induction n generalizing d with
  | zero =>
      left
      unfold walk
      split
      next h =>
        have he := (Bool.and_eq_true_iff.mp h).2
        rw [advance_atEnd o.lenient he, advance_atEnd o.strict he]
      next => rfl
  | succ n ih =>
      cases hf : d.isFinished with
      | true =>
          left
          rw [walk_of_finished o.lenient hf, walk_of_finished o.strict hf]
      | false =>
          rw [walk_succ o.lenient hf, walk_succ o.strict hf]
          rcases d.advance_agree o with refused | same
          · right
            obtain ⟨⟨mode, hphase⟩, _⟩ := advance_refused o refused
            have hlast : (d.advance o.strict).1.isFinished = true := by
              simp only [isFinished, hphase]
            refine ⟨0, d, ?_, hf, refused, ?_⟩
            · rw [walk_zero o.lenient (refused_present o refused)]
            · rw [walk_of_finished o.strict hlast]
          · rw [same]
            rcases ih (d.advance o.strict).1 with abreast | ⟨m, before, hm, unfinished, refused, hlast⟩
            · left
              rw [abreast]
            · right
              refine ⟨m + 1, before, ?_, unfinished, refused, hlast⟩
              rw [walk_succ o.lenient hf, same, hm]

theorem walk_lenient_fault (n : Nat) {d : Decoder} (start : d.fault? = none) {fault : Fault}
    (h : (d.walk o.lenient n).1.fault? = some fault) : fault.kind ≠ .unsupportedGraphicsMode := by
  revert fault
  refine walk_induction o.lenient
    (P := fun d => ∀ {fault}, d.fault? = some fault → fault.kind ≠ .unsupportedGraphicsMode) ?_ ?_ n
  · intro fault hf
    rw [start] at hf
    cases hf
  · intro d _ _ fault hf hkind
    obtain ⟨hphase, _⟩ := d.advance_reading o.lenient
    rw [fault?, hphase] at hf
    cases hr : d.reading o.lenient with
    | fault f after =>
        rw [hr] at hf
        cases hf
        obtain ⟨strict, _⟩ := Grammar.refusesMode_bytes (c := d.cursor) ⟨_, _, hr, hkind⟩
        cases strict
    | _ =>
        rw [hr] at hf
        cases hf

end Decoder

theorem decode_agree {o : Options} {capture : Octets} {n : Nat}
    (finished : ((Decoder.opened o.strict capture).walk o.strict n).1.isFinished = true)
    (agree : (Decoder.opened o.strict capture).walk o.lenient n =
      (Decoder.opened o.strict capture).walk o.strict n) :
    decode o.lenient capture = decode o.strict capture := by
  let sink : Sink := if o.trace then .keep else .discard
  have steps : Session.steps o.lenient n (Session.opened o.lenient sink capture) =
      Session.steps o.strict n (Session.opened o.strict sink capture) := by
    rw [Session.steps_opened, Session.steps_opened, ← agree]
    rfl
  have hf : (Session.steps o.strict n (Session.opened o.strict sink capture)).decoder.isFinished = true := by
    rw [Session.steps_opened]
    exact finished
  change decodeWithSink o.lenient sink capture = decodeWithSink o.strict sink capture
  rw [Session.decodeWithSink_of_steps o.strict sink hf,
    Session.decodeWithSink_of_steps o.lenient sink (by rw [steps]; exact hf), steps]
  rfl

namespace Session

variable (o : Options) (sink : Sink) (capture : Octets)

theorem steps_decoder (n : Nat) (s : Session) : (steps o n s).decoder = (s.decoder.walk o n).1 :=
  congrArg Session.decoder (steps_walk o n s.decoder s.journal)

theorem steps_dispatch {m : Nat}
    (unfinished : (steps o m (opened o sink capture)).decoder.isFinished = false) :
    (steps o m (opened o sink capture)).decoder.phase = .dispatch := by
  have hp : (opened o sink capture).decoder.phase ≠ .preamble := enter_phase_ne_preamble _
  have passed := steps_phase_ne_preamble o hp m
  rw [Decoder.isFinished] at unfinished
  cases hphase : (steps o m (opened o sink capture)).decoder.phase with
  | dispatch => rfl
  | preamble => exact absurd hphase passed
  | halted halt => rw [hphase] at unfinished; cases unfinished
  | failed fault => rw [hphase] at unfinished; cases unfinished

/-- A session that stands before a mode it would refuse, were it strict, gets past the mode. -/
theorem past_refused {s : Session} (unfinished : s.decoder.isFinished = false)
    (refused : (s.decoder.reading o.strict).RefusesMode) (n : Nat) :
    s.decoder.cursor.position + 3 ≤ (steps o.lenient (n + 1) s).finish.1.consumed ∧
      s.decoder.opcodes + 1 ≤ (steps o.lenient (n + 1) s).finish.1.opcodes := by
  obtain ⟨_, _, _, hopcodes, hposition⟩ := Decoder.advance_refused o refused
  rw [steps_succ o.lenient unfinished]
  constructor
  · have onward := (Decoder.walk_accounts o.lenient n (s.decoder.advance o.lenient).1).forward
    have least := ((s.decoder.advance o.lenient).1.walk o.lenient n).1.position_bounds.1
    change _ ≤ (steps o.lenient n (s.advance o.lenient)).decoder.position
    rw [steps_decoder, advance_decoder]
    exact Nat.le_trans hposition (Nat.le_trans onward least)
  · rw [← hopcodes]
    exact (steps_opcodes_le o.lenient n (s.advance o.lenient)).1

/-- A lenient decode goes on from where it would have failed, were it strict. -/
theorem decodeWithSink_past_refused {m : Nat} {s : Session}
    (hs : s = steps o.lenient m (opened o.lenient sink capture))
    (unfinished : s.decoder.isFinished = false)
    (refused : (s.decoder.reading o.strict).RefusesMode) :
    s.decoder.phase = .dispatch ∧ s.decoder.opcodes = m ∧
      s.decoder.cursor.position + 3 ≤ (decodeWithSink o.lenient sink capture).decoded.consumed ∧
      m + 1 ≤ (decodeWithSink o.lenient sink capture).decoded.opcodes ∧
      ∃ more, decodeWithSink o.lenient sink capture = (steps o.lenient more s).conclude o.lenient := by
  have opcodes : s.decoder.opcodes = m := by
    rw [hs] at unfinished ⊢
    rw [(steps_unfinished o.lenient unfinished).2]
    exact Nat.zero_add m
  have dispatch : s.decoder.phase = .dispatch := by
    rw [hs] at unfinished ⊢
    exact steps_dispatch o.lenient sink capture unfinished
  obtain ⟨n, hn⟩ := Decoder.exists_walk_finished o.lenient (s.decoder.advance o.lenient).1
  have finished : (steps o.lenient (n + 1) s).decoder.isFinished = true := by
    rw [steps_decoder, Decoder.walk_succ o.lenient unfinished]
    exact hn
  have ends : decodeWithSink o.lenient sink capture =
      (steps o.lenient (n + 1) s).conclude o.lenient := by
    rw [hs, steps_steps] at finished ⊢
    exact decodeWithSink_of_steps o.lenient sink finished
  obtain ⟨onward, more⟩ := past_refused o unfinished refused n
  rw [← conclude_decoded o.lenient, ← ends] at onward more
  rw [opcodes] at more
  exact ⟨dispatch, opcodes, onward, more, n + 1, ends⟩

end Session

theorem decode_lenient_fault (o : Options) {capture : Octets} {fault : Fault}
    (hf : (decode o.lenient capture).fault? = some fault) : fault.kind ≠ .unsupportedGraphicsMode := by
  obtain ⟨n, hn⟩ := Decoder.exists_walk_finished o.lenient (Decoder.opened o.lenient capture)
  rw [decode_fault (decode_result o.lenient capture hn)] at hf
  exact Decoder.walk_lenient_fault o n rfl hf

/-- Accepting every graphics mode changes nothing unless a mode is refused without it. Then the decode
goes on from where it would have failed, and it never fails so. -/
theorem lenience_conservative (o : Options) (capture : Octets) :
    let strict := decode o.strict capture
    let lenient := decode o.lenient capture
    (∀ fault, lenient.fault? = some fault → fault.kind ≠ .unsupportedGraphicsMode) ∧
    ((∀ fault, strict.fault? = some fault → fault.kind ≠ .unsupportedGraphicsMode) →
      lenient = strict) ∧
    ∀ fault, strict.fault? = some fault → fault.kind = .unsupportedGraphicsMode →
      fault.position + 1 ≤ lenient.decoded.consumed ∧
      strict.decoded.opcodes ≤ lenient.decoded.opcodes ∧
      ∃ before : Session,
        before = Session.steps o.lenient (strict.decoded.opcodes - 1)
          (Session.opened o.lenient (if o.trace then .keep else .discard) capture) ∧
        before.decoder.phase = .dispatch ∧ before.decoder.cursor.position + 2 = fault.position ∧
        before.decoder.opcodes + 1 = strict.decoded.opcodes ∧
        before.decoder.pen = strict.decoded.pen ∧ before.decoder.surface = strict.decoded.surface ∧
        ∃ more, lenient = (Session.steps o.lenient more before).conclude o.lenient := by
  intro strict lenient
  obtain ⟨n, hn⟩ := Decoder.exists_walk_finished o.strict (Decoder.opened o.strict capture)
  have hstrict := decode_result o.strict capture hn
  have never : ∀ fault, lenient.fault? = some fault → fault.kind ≠ .unsupportedGraphicsMode :=
    fun fault => decode_lenient_fault o
  rcases Decoder.walk_agree o n (Decoder.opened o.strict capture) with
    agree | ⟨m, before, hbefore, unfinished, refused, hlast⟩
  · have same : lenient = strict := decode_agree hn agree
    refine ⟨never, fun _ => same, fun fault hf hkind => ?_⟩
    rw [← same] at hf
    exact absurd hkind (never fault hf)
  · obtain ⟨⟨mode, hphase⟩, hopcodes, hsheet, _⟩ := Decoder.advance_refused o refused
    rw [hlast] at hstrict
    have known : strict.fault? =
        some ⟨before.cursor.position + 2, some mode, .unsupportedGraphicsMode⟩ := by
      change (decode o.strict capture).fault? = _
      rw [decode_fault hstrict, Decoder.fault?, hphase]
    have decoded : strict.decoded = _ := decode_decoded hstrict
    refine ⟨never, fun accepted => absurd rfl (accepted _ known), fun fault hf _ => ?_⟩
    rw [known] at hf
    cases hf
    obtain ⟨s, hs⟩ : ∃ s, s = Session.steps o.lenient m
        (Session.opened o.lenient (if o.trace then .keep else .discard) capture) := ⟨_, rfl⟩
    have hd : s.decoder = before := by
      rw [hs, Session.steps_opened]
      exact hbefore
    subst hd
    obtain ⟨dispatch, hm, onward, more, ends⟩ :=
      Session.decodeWithSink_past_refused o _ capture hs unfinished refused
    have count : strict.decoded.opcodes = m + 1 := by
      rw [decoded, ← hm]
      exact hopcodes
    refine ⟨onward, ?_, s, ?_, dispatch, rfl, ?_, ?_, ?_, ends⟩
    · rw [count]
      exact more
    · rw [count]
      exact hs
    · rw [count, hm]
    · rw [decoded]
      exact (congrArg Sheet.pen hsheet).symm
    · rw [decoded]
      exact (congrArg Sheet.surface hsheet).symm

/-- A reset, and one column of graphics in a mode that is not the common one. -/
def oddGraphics : Octets := [0x1B, 0x40, 0x1B, 0x2A, 0x20, 0x01, 0x00, 0x80, 0x00, 0x00]

theorem oddGraphics_lenient :
    (decode (Options.strict .standard) oddGraphics).fault? =
      some ⟨4, some 0x20, .unsupportedGraphicsMode⟩ ∧
    (decode (Options.lenient .standard) oddGraphics).fault? = none ∧
    5 ≤ (decode (Options.lenient .standard) oddGraphics).decoded.consumed ∧
    2 ≤ (decode (Options.lenient .standard) oddGraphics).decoded.opcodes ∧
    ∃ before more, before.decoder.pen = (decode (Options.strict .standard) oddGraphics).decoded.pen ∧
      before.decoder.surface = (decode (Options.strict .standard) oddGraphics).decoded.surface ∧
      decode (Options.lenient .standard) oddGraphics =
        (Session.steps (Options.lenient .standard) more before).conclude (Options.lenient .standard) := by
  have hf : ((Decoder.opened (Options.strict .standard) oddGraphics).walk
    (Options.strict .standard) 2).1.isFinished = true := rfl
  have hl : ((Decoder.opened (Options.lenient .standard) oddGraphics).walk
    (Options.lenient .standard) 2).1.isFinished = true := by decide +kernel
  have strict := decode_result (Options.strict .standard) oddGraphics hf
  have lenient := decode_result (Options.lenient .standard) oddGraphics hl
  have known : (decode (Options.strict .standard) oddGraphics).fault? =
      some ⟨4, some 0x20, .unsupportedGraphicsMode⟩ := by
    rw [decode_fault strict]
    rfl
  obtain ⟨_, _, refused⟩ := lenience_conservative .standard oddGraphics
  obtain ⟨consumed, opcodes, before, _, _, _, _, pen, surface, more, ends⟩ := refused _ known rfl
  refine ⟨known, ?_, consumed, ?_, before, more, pen, surface, ends⟩
  · rw [decode_fault lenient]
    decide +kernel
  · rw [decode_decoded strict] at opcodes
    exact opcodes

end LabelStream
