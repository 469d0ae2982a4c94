import LabelStream.Proofs.Passage

/-! What stands before the first escape is skipped and told of, and that is all. From there on a
decoder does what it would do at the start of the data, only further on. -/
namespace LabelStream

-- The distance is added on the left, so that reading a byte and moving on commute by computation.
def Cursor.shift (n : Nat) (c : Cursor) : Cursor := ⟨n + c.position, c.rest⟩

def Fault.shift (n : Nat) (f : Fault) : Fault := ⟨n + f.position, f.byte, f.kind⟩

namespace Halt

def shift (n : Nat) : Halt → Halt
  | endOfStream => endOfStream
  | nullTerminator position => nullTerminator (n + position)
  | truncated opcode => truncated (n + opcode)
  | cancelled => cancelled
  | aborted position => aborted (n + position)

end Halt

/-- The same note about data that stands further on. Of all notes these two speak of offsets. -/
def Note.shift (n : Nat) : Note → Note
  | fault f => fault (f.shift n)
  | finished halt width height => finished (halt.shift n) width height
  | note => note

def Event.shift (n : Nat) (e : Event) : Event := ⟨n + e.position, e.note.shift n⟩

namespace RunLength

def RunReading.shift (n : Nat) : RunReading → RunReading
  | whole run after => whole run (after.shift n)
  | cut arrived after => cut arrived (after.shift n)

def Expansion.shift (n : Nat) (e : Expansion) : Expansion :=
  ⟨e.runs, e.tail, e.complete, e.after.shift n⟩

end RunLength

def Reading.shift (n : Nat) : Reading → Reading
  | nothing => nothing
  | whole command after => whole command (after.shift n)
  | cut fragment after => cut fragment (after.shift n)
  | terminator after => terminator (after.shift n)
  | fault f after => fault (f.shift n) (after.shift n)

namespace Cursor

variable (n : Nat) (c : Cursor)

theorem next_shift : (c.shift n).next = (c.next.1, c.next.2.shift n) := by
  rcases c with ⟨p, _ | ⟨b, rest⟩⟩ <;> rfl

theorem nextPair_shift : (c.shift n).nextPair = (c.nextPair.1, c.nextPair.2.shift n) := by
  rcases c with ⟨p, _ | ⟨low, _ | ⟨high, rest⟩⟩⟩ <;> rfl

theorem take_shift (count : Nat) :
    (c.shift n).take count = ((c.take count).1, (c.take count).2.shift n) := by
  simp only [take, shift, Nat.add_assoc]

end Cursor

namespace RunLength

variable (n : Nat)

theorem readLiterals_shift (control : UInt8) (c : Cursor) :
    readLiterals control (c.shift n) = (readLiterals control c).shift n := by
  simp only [readLiterals, Cursor.take_shift]
  split <;> rfl

theorem readRun_shift (c : Cursor) : readRun (c.shift n) = (readRun c).shift n := by
  rcases c with ⟨p, _ | ⟨control, rest⟩⟩
  · rfl
  by_cases small : control < 128
  · simp only [readRun, Cursor.shift, Cursor.next, if_pos small]
    exact readLiterals_shift n control ⟨p + 1, rest⟩
  · simp only [readRun, Cursor.shift, Cursor.next, if_neg small]
    cases rest <;> rfl

theorem readRuns_shift (stop : Nat) (seen : List Run) (c : Cursor) :
    readRuns (n + stop) seen (c.shift n) = (readRuns stop seen c).shift n := by
  fun_induction readRuns stop seen c with
  | case1 seen c hp run after hr ih =>
      have hp' : (c.shift n).position < n + stop := Nat.add_lt_add_left hp n
      have hr' : readRun (c.shift n) = .whole run (after.shift n) := by
        rw [readRun_shift, hr]
        rfl
      rw [readRuns_whole hp' hr', ih]
  | case2 seen c hp arrived after hr =>
      have hp' : (c.shift n).position < n + stop := Nat.add_lt_add_left hp n
      have hr' : readRun (c.shift n) = .cut arrived (after.shift n) := by
        rw [readRun_shift, hr]
        rfl
      rw [readRuns_cut hp' hr']
      rfl
  | case3 seen c hp =>
      have hp' : ¬ (c.shift n).position < n + stop := fun h => hp (Nat.lt_of_add_lt_add_left h)
      rw [readRuns_stop hp']
      rfl

theorem expand_shift (length : Nat) (c : Cursor) :
    expand length (c.shift n) = (expand length c).shift n := by
  have h := readRuns_shift n (c.position + length) [] c
  rw [← Nat.add_assoc] at h
  exact h

end RunLength

namespace Grammar

variable (g : Grammar) (n : Nat) (c : Cursor)

theorem readRaster_shift (form : RasterForm) (length : Nat) :
    g.readRaster form length (c.shift n) = (g.readRaster form length c).shift n := by
  unfold readRaster
  rw [RunLength.expand_shift, Cursor.take_shift]
  cases g.compressed with
  | true =>
      simp only [if_true]
      change (if (RunLength.expand length c).complete = true then _ else _) = _
      split <;> rfl
  | false =>
      simp only [Bool.false_eq_true, if_false]
      split <;> rfl

theorem readSetting_shift : readSetting (c.shift n) = (readSetting c).shift n := by
  simp only [readSetting, Cursor.next_shift]
  rcases c.next with ⟨_ | code, after⟩
  · rfl
  · simp only [Cursor.take_shift]
    split <;> rfl

theorem readBitImage_shift : g.readBitImage (c.shift n) = (g.readBitImage c).shift n := by
  simp only [readBitImage, Cursor.next_shift]
  rcases c.next with ⟨_ | mode, after⟩
  · rfl
  · dsimp only
    split
    · rfl
    · simp only [Cursor.nextPair_shift]
      rcases after.nextPair with ⟨_ | columns, after⟩
      · rfl
      · simp only [Cursor.take_shift]
        split <;> rfl

theorem readEscape_shift : g.readEscape (c.shift n) = (g.readEscape c).shift n := by
  simp only [readEscape, Cursor.next_shift]
  rcases c.next with ⟨_ | byte, after⟩
  · rfl
  · dsimp only
    cases Escape.ofByte byte with
    | reset => rfl
    | relativeMove =>
        simp only [Cursor.nextPair_shift]
        rcases after.nextPair with ⟨_ | dots, after⟩ <;> rfl
    | setting => exact readSetting_shift n after
    | bitImage => exact g.readBitImage_shift n after
    | unknown byte => rfl

/-- A command reads the same wherever it stands. -/
theorem read_shift : g.read (c.shift n) = (g.read c).shift n := by
  simp only [read, Cursor.next_shift]
  rcases c.next with ⟨_ | byte, after⟩
  · rfl
  · dsimp only
    cases Opcode.ofByte byte with
    | escape => exact g.readEscape_shift n after
    | rasterLine =>
        simp only [Cursor.nextPair_shift]
        rcases after.nextPair with ⟨_ | length, after⟩
        · rfl
        · exact g.readRaster_shift n after .long length
    | rasterLineShort =>
        simp only [Cursor.next_shift]
        rcases after.next with ⟨_ | ignored, after⟩
        · rfl
        · simp only [Cursor.next_shift]
          rcases after.next with ⟨_ | length, after⟩
          · rfl
          · exact g.readRaster_shift n after .short length.toNat
    | compression =>
        simp only [Cursor.next_shift]
        rcases after.next with ⟨_ | kind, after⟩ <;> rfl
    | blankLine => rfl
    | printFeed code => rfl
    | formFeed => rfl
    | carriageReturn => rfl
    | lineFeed => rfl
    | null => rfl
    | unknown byte => rfl

end Grammar

theorem operandEvents_shift (n p : Nat) (operands : Octets) :
    operandEvents (n + p) operands = (operandEvents p operands).map (Event.shift n) := by
  simp only [operandEvents, List.map_map, Nat.add_assoc]
  rfl

theorem Command.events_shift (n p : Nat) (pen : Pen) (command : Command) :
    command.events (n + p) pen = (command.events p pen).map (Event.shift n) := by
  cases command with
  | setting code operands =>
      have ho := operandEvents_shift n (p + 3) operands
      simp only [events]
      split
      · rfl
      · exact congrArg (_ :: ·) ho
  | reset => rfl
  | relativeMove dots => rfl
  | bitImage mode columns dots => rfl
  | rasterLine form length line => rfl
  | compression kind => rfl
  | blankLine => rfl
  | printFeed code => rfl
  | formFeed => rfl
  | carriageReturn => rfl
  | lineFeed => rfl

theorem Fragment.events_shift (n p : Nat) (pen : Pen) (fragment : Fragment) :
    fragment.events (n + p) pen = (fragment.events p pen).map (Event.shift n) := by
  cases fragment with
  | header => rfl
  | graphics => rfl
  | body command => exact command.events_shift n p pen

theorem Fault.events_shift (n p : Nat) (f : Fault) :
    (f.shift n).events (n + p) = (f.events p).map (Event.shift n) := by
  rcases f with ⟨position, byte, kind⟩
  cases kind <;> rfl

def Phase.shift (n : Nat) : Phase → Phase
  | preamble => preamble
  | dispatch => dispatch
  | halted halt => halted (halt.shift n)
  | failed fault => failed (fault.shift n)

namespace Decoder

def shift (n : Nat) (d : Decoder) : Decoder :=
  ⟨d.phase.shift n, d.cursor.shift n, d.opcodes, d.pen, d.surface⟩

variable (o : Options) (n : Nat) (d : Decoder)

theorem isFinished_shift : (d.shift n).isFinished = d.isFinished := by
  rcases d with ⟨phase, cursor, opcodes, pen, surface⟩
  cases phase <;> rfl

theorem reading_shift : (d.shift n).reading o = (d.reading o).shift n :=
  Grammar.read_shift ⟨d.pen.compression, o.acceptAnyGraphicsMode⟩ n d.cursor

theorem advance_shift :
    (d.shift n).advance o = ((d.advance o).1.shift n, (d.advance o).2.map (Event.shift n)) := by
  have hr := d.reading_shift o n
  unfold advance
  rw [hr]
  cases d.reading o with
  | nothing => rfl
  | whole command after => exact congrArg (_, ·) (command.events_shift n _ _)
  | cut fragment after =>
      have he := fragment.events_shift n d.cursor.position d.pen
      cases fragment <;> exact congrArg (_, ·) he
  | terminator after => rfl
  | fault f after => exact congrArg (_, ·) (f.events_shift n _)

theorem walk_shift (k : Nat) :
    (d.shift n).walk o k = ((d.walk o k).1.shift n, (d.walk o k).2.map (Event.shift n)) := by
  induction k generalizing d with
  | zero =>
      simp only [walk, isFinished_shift]
      change (if (!d.isFinished && d.cursor.atEnd) = true then _ else _) = _
      split
      · exact d.advance_shift o n
      · rfl
  | succ k ih =>
      cases hf : d.isFinished with
      | true =>
          have hf' : (d.shift n).isFinished = true := by rw [isFinished_shift, hf]
          rw [walk_of_finished o hf', walk_of_finished o hf]
          rfl
      | false =>
          have hf' : (d.shift n).isFinished = false := by rw [isFinished_shift, hf]
          rw [walk_succ o hf', walk_succ o hf, advance_shift, ih, List.map_append]

theorem ending_shift : (d.shift n).ending = d.ending.shift n := by
  rcases d with ⟨phase, cursor, opcodes, pen, surface⟩
  cases phase <;> rfl

theorem position_shift : (d.shift n).position = n + d.position := by
  rcases d with ⟨phase, ⟨p, rest⟩, opcodes, pen, surface⟩
  cases phase with
  | dispatch => cases rest <;> rfl
  | preamble => rfl
  | halted halt => rfl
  | failed fault => rfl

theorem summary_shift : (d.shift n).summary = d.summary.shift n := by
  unfold summary
  rw [ending_shift, position_shift]
  rfl

end Decoder

theorem printableSuffix_eq (byte : UInt8) : printableSuffix byte =
    if 32 ≤ byte ∧ byte ≤ 126 then ", '" ++ String.singleton (Char.ofNat byte.toNat) ++ "'" else "" := by
  unfold printableSuffix
  by_cases h : 32 ≤ byte ∧ byte ≤ 126
  · rw [if_pos h, if_pos (Bool.and_eq_true_iff.mpr ⟨decide_eq_true h.1, decide_eq_true h.2⟩)]
  · rw [if_neg h, if_neg]
    intro hb
    obtain ⟨hlow, hhigh⟩ := Bool.and_eq_true_iff.mp hb
    exact h ⟨of_decide_eq_true hlow, of_decide_eq_true hhigh⟩

/-- Two texts that differ in the offset that they print, if they print one, and in nothing else. -/
def Moved (n : Nat) (offset? : Option Nat) (text moved : String) : Prop :=
  match offset? with
  | none => moved = text
  | some position => ∃ before after, text = before ++ toString position ++ after ∧
      moved = before ++ toString (n + position) ++ after

theorem Moved.append {n : Nat} {offset? : Option Nat} {text moved : String}
    (h : Moved n offset? text moved) (before after : String) :
    Moved n offset? (before ++ text ++ after) (before ++ moved ++ after) := by
  cases offset? with
  | none => exact congrArg (before ++ · ++ after) h
  | some position =>
      obtain ⟨left, right, ht, hm⟩ := h
      refine ⟨before ++ left, right ++ after, ?_, ?_⟩
      · rw [ht]
        simp only [String.append_assoc]
      · rw [hm]
        simp only [String.append_assoc]

def Halt.offset? : Halt → Option Nat
  | nullTerminator position | truncated position | aborted position => some position
  | endOfStream | cancelled => none

def Note.offset? : Note → Option Nat
  | fault f => some f.position
  | finished halt _ _ => halt.offset?
  | _ => none

theorem Fault.message_shift (n : Nat) (f : Fault) :
    Moved n (some f.position) f.message (f.shift n).message := by
  rcases f with ⟨position, byte, kind⟩
  cases byte with
  | none =>
      exact ⟨kind.message ++ " at offset ", "", String.append_empty.symm, String.append_empty.symm⟩
  | some b =>
      refine ⟨kind.message ++ " at offset ", " (byte 0x" ++ hexPair b ++ ")", ?_, ?_⟩
      · simp only [message, String.append_assoc]
      · simp only [message, shift, String.append_assoc]

theorem Halt.message_shift (n : Nat) (halt : Halt) :
    Moved n halt.offset? halt.message (halt.shift n).message := by
  cases halt with
  | endOfStream => rfl
  | cancelled => rfl
  | nullTerminator position =>
      exact ⟨"NUL terminator at ", "", String.append_empty.symm, String.append_empty.symm⟩
  | truncated opcode =>
      exact ⟨"truncated command at ", "", String.append_empty.symm, String.append_empty.symm⟩
  | aborted position =>
      exact ⟨"aborted at ", "", String.append_empty.symm, String.append_empty.symm⟩

/-- What is told of data that stands further on reads the same but for the offsets. -/
theorem Note.message_shift (n : Nat) (note : Note) :
    Moved n note.offset? note.message (note.shift n).message := by
  cases note with
  | fault f => exact f.message_shift n
  | finished halt width height =>
      have h := (halt.message_shift n).append "finished: "
        (", image " ++ toString width ++ "x" ++ toString height)
      simp only [← String.append_assoc] at h
      exact h
  | _ => rfl

/-- The events of a decode that skipped a preamble before all else. -/
def preambleThen (preamble : Octets) (events : List Event) : List Event :=
  Decoder.preambleEvents preamble ++ events.map (Event.shift preamble.length)

theorem preambleThen_append (preamble : Octets) (events more : List Event) :
    preambleThen preamble (events ++ more) =
      preambleThen preamble events ++ more.map (Event.shift preamble.length) := by
  rw [preambleThen, preambleThen, List.map_append, List.append_assoc]

/-- What a decode leaves that skipped a preamble before all else. -/
def Decoded.behind (preamble : Octets) (d : Decoded) : Decoded :=
  { d with
    halt := d.halt.shift preamble.length
    consumed := preamble.length + d.consumed
    trace := d.trace.map (preambleThen preamble) }

def Failure.behind (preamble : Octets) (f : Failure) : Failure :=
  ⟨f.fault.shift preamble.length, f.decoded.behind preamble⟩

namespace Decoder

variable {o : Options} (preamble : Octets) (d : Decoder)

theorem decoded_shift (trace : Option (List Event)) :
    (d.shift preamble.length).decoded (trace.map (preambleThen preamble)) =
      (d.decoded trace).behind preamble := by
  unfold decoded
  rw [ending_shift, position_shift]
  rfl

theorem result_shift (trace : Option (List Event)) :
    (d.shift preamble.length).result (trace.map (preambleThen preamble)) =
      ((d.result trace).map (Decoded.behind preamble)).mapError (Failure.behind preamble) := by
  have hd := d.decoded_shift preamble trace
  rcases d with ⟨phase, cursor, opcodes, pen, surface⟩
  cases phase with
  | failed fault => exact congrArg (fun d => Except.error (Failure.mk (fault.shift _) d)) hd
  | preamble => exact congrArg Except.ok hd
  | dispatch => exact congrArg Except.ok hd
  | halted halt => exact congrArg Except.ok hd

theorem preambleEvents_getElem {i : Nat} {byte : UInt8} (h : preamble[i]? = some byte) :
    (preambleEvents preamble)[i]? = some ⟨i, .skipped i byte⟩ := by
  rw [preambleEvents, List.getElem?_map, List.getElem?_zipIdx, h, Nat.zero_add]
  rfl

variable {preamble} {body : Octets}

/-- Where a decode stands behind a preamble is where it stands without one, further on. -/
theorem opened_behind (plain : escapeByte ∉ preamble) (escaped : Escaped body) :
    opened o (preamble ++ body) = (opened o body).shift preamble.length := by
  have hwith : opened o (preamble ++ body) = _ := Session.opened_decoder o .discard plain escaped
  have hwithout : opened o ([] ++ body) = _ := Session.opened_decoder o .discard List.not_mem_nil escaped
  rw [List.nil_append] at hwithout
  rw [hwith, hwithout]
  rfl

theorem told_behind (plain : escapeByte ∉ preamble) (escaped : Escaped body) (n : Nat) :
    told o (preamble ++ body) n = preambleThen preamble (told o body n) := by
  have hwith : preambleBytes (.start (preamble ++ body)) = preamble :=
    Session.takeWhile_preamble plain escaped
  have hwithout : preambleBytes (.start ([] ++ body)) = [] :=
    Session.takeWhile_preamble List.not_mem_nil escaped
  rw [List.nil_append] at hwithout
  rw [told, told, hwith, hwithout, opened_behind plain escaped, walk_shift]
  rfl

end Decoder

/-- A preamble is told of byte by byte, and else it only moves what follows it further on. -/
theorem preamble_isolated (o : Options) {preamble body : Octets} (plain : escapeByte ∉ preamble)
    (escaped : Escaped body) :
    (decode o (preamble ++ body)).result =
      ((decode o body).result.map (Decoded.behind preamble)).mapError (Failure.behind preamble) ∧
    (decode o body).decoded.trace.isSome = o.trace ∧
    (∀ note : Note,
      Moved preamble.length note.offset? note.message (note.shift preamble.length).message) ∧
    (Decoder.preambleEvents preamble).length = preamble.length ∧
    ∀ (i : Nat) (byte : UInt8), preamble[i]? = some byte →
      (Decoder.preambleEvents preamble)[i]? = some ⟨i, .skipped i byte⟩ ∧
      (Note.skipped i byte).message =
        "skipping until ESC (" ++ toString i ++ ", " ++ toString byte.toNat ++
          (if 32 ≤ byte ∧ byte ≤ 126 then ", '" ++ String.singleton (Char.ofNat byte.toNat) ++ "'"
          else "") ++ ")" := by
  obtain ⟨n, hf⟩ := Decoder.exists_walk_finished o (Decoder.opened o body)
  refine ⟨?result, ?traced, Note.message_shift _, ?count, ?bytes⟩
  case result =>
    have hf' : ((Decoder.opened o (preamble ++ body)).walk o n).1.isFinished = true := by
      rw [Decoder.opened_behind plain escaped, Decoder.walk_shift, Decoder.isFinished_shift, hf]
    rw [decode_result o _ hf', decode_result o _ hf, Decoder.told_behind plain escaped,
      Decoder.opened_behind plain escaped, Decoder.walk_shift, Decoder.summary_shift,
      ← Decoder.result_shift]
    cases o.trace with
    | false => simp only [Bool.false_eq_true, if_false, Option.map_none]
    | true => simp only [if_true, Option.map_some, preambleThen_append, List.map_singleton]
  case traced =>
    rw [decode_decoded (decode_result o body hf)]
    cases o.trace <;> rfl
  case count => rw [Decoder.preambleEvents, List.length_map, List.length_zipIdx]
  case bytes =>
    intro i byte hi
    refine ⟨Decoder.preambleEvents_getElem preamble hi, ?_⟩
    change "skipping until ESC (" ++ toString i ++ ", " ++ toString byte.toNat ++
      printableSuffix byte ++ ")" = _
    rw [printableSuffix_eq]

/-- A reset and a byte that is no opcode. -/
def strayOpcode : Octets := [0x1B, 0x40, 0xFE]

theorem strayOpcode_behind_label :
    escapeByte ∉ [0x4C, 0x07] ∧ Escaped strayOpcode ∧
    ∃ failure, (decode .traced strayOpcode).result = .error failure ∧ failure.fault.position = 2 ∧
      (decode .traced ([0x4C, 0x07] ++ strayOpcode)).result = .error (failure.behind [0x4C, 0x07]) ∧
      (Note.skipped 0 0x4C).message =
        "skipping until ESC (" ++ toString 0 ++ ", " ++ toString (0x4C : UInt8).toNat ++ ", 'L'" ++
          ")" := by
  have plain : escapeByte ∉ [0x4C, 0x07] := by decide
  have escaped : Escaped strayOpcode := .inr ⟨[0x40, 0xFE], rfl⟩
  obtain ⟨hresult, _, _, _, hbytes⟩ := preamble_isolated .traced plain escaped
  have hf : ((Decoder.opened .traced strayOpcode).walk .traced 2).1.isFinished = true := rfl
  have hfails := decode_result .traced strayOpcode hf
  rw [hfails] at hresult
  exact ⟨plain, escaped, _, hfails, rfl, hresult, (hbytes 0 0x4C rfl).2⟩

end LabelStream
