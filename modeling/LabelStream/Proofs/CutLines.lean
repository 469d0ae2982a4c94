import LabelStream.Proofs.Expanding
import LabelStream.Proofs.Pages

/-! The last raster line of a capture whose data ended too early. Its written length says how much was
to come, and what is drawn depends on what came. -/
namespace LabelStream

namespace RunLength

/-- A length that the data does not exceed is as good as no length. -/
theorem expand_to_end {length : Nat} {c : Cursor} (h : c.rest.length ≤ length) :
    ∃ s : Split, s.bytes = c.rest ∧ (expand length c).output = s.output := by
  obtain ⟨s, rest, complete, hc, -, he, filled, ended⟩ := expand_split length c
  have hrest : rest = [] := by
    cases complete with
    | false => exact (ended rfl).1
    | true =>
        obtain ⟨whole, fills⟩ := filled rfl
        have reached := (fills.flatten_le s.spelt).1
        rw [hc, List.length_append, s.bytes_of_whole whole] at h
        exact List.eq_nil_of_length_eq_zero (by omega)
  rw [hrest, List.append_nil] at hc
  refine ⟨s, hc.symm, ?_⟩
  rw [he]
  rfl

end RunLength

theorem Payload.length_le {compressed : Bool} {length : Nat} {payload line : Octets}
    (h : Payload compressed length payload line) : length ≤ payload.length := by
  cases h with
  | plain count => exact Nat.le_of_eq count.symm
  | coded spelt reached last => exact reached

/-- The reading takes all the data for a command, which may be too little of it. -/
def Reading.Exhausts (c : Cursor) (command : Command) (r : Reading) : Prop :=
  r = .whole command c.last ∨ r = .cut (.body command) c.last

namespace Grammar

theorem line_to_end (g : Grammar) {length other : Nat} {c : Cursor} (h : c.rest.length ≤ length)
    (h' : c.rest.length ≤ other) : g.line length c = g.line other c := by
  unfold line
  split
  · obtain ⟨s, hs, output⟩ := RunLength.expand_to_end h
    obtain ⟨s', hs', output'⟩ := RunLength.expand_to_end h'
    -- Both times all the bytes are split, so they are split alike.
    rw [output, output', RunLength.Split.bytes_injective (hs.trans hs'.symm)]
  · rw [List.take_of_length_le h, List.take_of_length_le h']

theorem readRaster_exhausts (g : Grammar) (form : RasterForm) {length : Nat} {c : Cursor}
    (h : c.rest.length ≤ length) :
    (g.readRaster form length c).Exhausts c (.rasterLine form length (g.line length c)) ∧
      (c.rest.length < length → g.readRaster form length c =
        .cut (.body (.rasterLine form length (g.line length c))) c.last) := by
  have hcommand := g.readRaster_command form length c
  rcases g.readRaster_cases form length c with ⟨payload, line, rest, hc, data⟩ | ⟨line, _, _, _, _, hr⟩
  · have hle := data.length_le
    rw [hc, List.length_append] at h ⊢
    obtain rfl : rest = [] := List.eq_nil_of_length_eq_zero (by omega)
    rcases c with ⟨p, bytes⟩
    change bytes = _ at hc
    subst hc
    have hr := readRaster_payload data form p []
    rw [hr] at hcommand
    rw [hr, Option.some.inj hcommand]
    refine ⟨.inl ?_, fun hlt => ?_⟩
    · rw [Cursor.last, List.append_nil]
    · rw [List.length_nil] at hlt
      omega
  · rw [hr] at hcommand
    rw [hr, Option.some.inj hcommand]
    exact ⟨.inr rfl, fun _ => rfl⟩

end Grammar

namespace RasterForm

/-- The lengths that can be written in the form are below this bound. -/
def lengths : RasterForm → Nat
  | long => 65536
  | short => 256

/-- The bytes before the strips. The short form has one byte that nothing reads. -/
def head (ignored : UInt8) (length : Nat) : RasterForm → Octets
  | long => 0x47 :: pairOctets length
  | short => [0x67, ignored, UInt8.ofNat length]

theorem head_length (form : RasterForm) (ignored : UInt8) (length : Nat) :
    (form.head ignored length).length = 3 := by
  cases form <;> rfl

theorem read_head {form : RasterForm} {length : Nat} (fits : length < form.lengths) (g : Grammar)
    (ignored : UInt8) (p : Nat) (bytes : Octets) :
    g.read ⟨p, form.head ignored length ++ bytes⟩ = g.readRaster form length ⟨p + 3, bytes⟩ := by
  cases form with
  | long =>
      have hread := g.read_rasterLine p (UInt8.ofNat length) (UInt8.ofNat (length / 256)) bytes
      rw [pairValue_ofNat length fits] at hread
      exact hread
  | short =>
      have hread := g.read_rasterLineShort p ignored (UInt8.ofNat length) bytes
      rw [UInt8.toNat_ofNat_of_lt' fits] at hread
      exact hread

end RasterForm

namespace Decoder

variable {o : Options} {d : Decoder} {command : Command}

theorem walk_exhausts (unfinished : d.isFinished = false)
    (h : (d.reading o).Exhausts d.cursor command) :
    ∃ halt, ((d.walk o 1).1.phase = .halted halt ∧ (d.walk o 1).1.cursor = d.cursor.last ∧
        (d.walk o 1).1.opcodes = d.opcodes + 1 ∧
        (d.walk o 1).1.sheet = d.sheet.perform o command) ∧
      (d.reading o = .cut (.body command) d.cursor.last → halt = .truncated d.cursor.position) := by
  obtain ⟨hphase, hcursor, hopcodes, _⟩ := d.advance_reading o
  have hsheet := d.advance_sheet o
  rw [walk_succ o unfinished]
  rcases h with hr | hr
  · rw [hr] at hphase hcursor hopcodes hsheet
    have hf : (d.advance o).1.isFinished = false := by simp only [isFinished, hphase, Reading.phase]
    have he : (d.advance o).1.cursor.atEnd = true := by rw [hcursor]; rfl
    rw [walk_of_atEnd o hf he]
    refine ⟨.endOfStream, ⟨rfl, hcursor, hopcodes, hsheet⟩, fun hcut => ?_⟩
    rw [hr] at hcut
    cases hcut
  · rw [hr] at hphase hcursor hopcodes hsheet
    have hf : (d.advance o).1.isFinished = true := by simp only [isFinished, hphase, Reading.phase]
    rw [walk_of_finished o hf]
    exact ⟨_, ⟨hphase, hcursor, hopcodes, hsheet⟩, fun _ => rfl⟩

end Decoder

namespace Passage

variable {o : Options} (q : Passage o)

/-- What a decode comes to that performs one more command behind a passage, with the last of the data. -/
structure Closes (tail : Octets) (command : Command) (d : Decoded) : Prop where
  result : (decode o (q.before tail)).result = .ok d
  sheet : Sheet.mk d.pen d.surface = q.drawn.perform o command
  consumed : d.consumed = (q.before tail).length
  opcodes : d.opcodes = q.words.length + 1
  finished : ((Decoder.opened o (q.before tail)).walk o (q.words.length + 1)).1.isFinished = true
  performed : (Decoder.opened o (q.before tail)).performed o (q.words.length + 1) =
    q.commands ++ [command]

theorem exists_closes {tail : Octets} {command : Command} (escaped : Escaped (q.words.flatten ++ tail))
    (h : ((q.behind tail).reading o).Exhausts (q.behind tail).cursor command) :
    ∃ d, q.Closes tail command d ∧
      ((q.behind tail).reading o = .cut (.body command) (q.behind tail).cursor.last →
        d.halt = .truncated q.size) := by
  obtain ⟨halt, ⟨hphase, hcursor, hopcodes, hsheet⟩, hhalt⟩ := Decoder.walk_exhausts rfl h
  have hf : ((q.behind tail).walk o 1).1.isFinished = true := by
    simp only [Decoder.isFinished, hphase]
  obtain ⟨told, tells⟩ := q.exists_tells
  have hresult := tells tail escaped 1 _ _ rfl hf
  generalize (if o.trace then _ else none : Option (List Event)) = trace at hresult
  obtain ⟨hok, hended, hconsumed⟩ := Decoder.result_halted hphase trace
  refine ⟨_, ⟨hresult.trans hok, hsheet, ?consumed, hopcodes, ?finished, ?performed⟩, fun hcut => ?_⟩
  case consumed =>
    rw [hconsumed, hcursor, q.before_length]
    rfl
  case finished =>
    have hmode : (Sheet.mk .home (.blank o.maxWidth o.maxHeight)).pen.compression = false := rfl
    obtain ⟨told, walk⟩ := Decoder.walk_sentence o q.spelt q.preamble.length hmode
    have hopened := walk 0 tail 1
    rw [Nat.zero_add] at hopened
    rw [q.opened_before escaped, hopened]
    exact hf
  case performed =>
    have hcommand : ((q.behind tail).reading o).command? = some command := by
      rcases h with hr | hr <;> rw [hr] <;> rfl
    rw [q.opened_before escaped, Decoder.performed_sentence o q.spelt _ _ rfl, Nat.zero_add]
    change q.commands ++ (q.behind tail).performed o 1 = _
    rw [Decoder.performed_succ o rfl, hcommand]
    rfl
  · rw [hended]
    exact hhalt hcut

end Passage

/-- A capture that ran out of data between commands, and has an escape, is a passage that anything may
stand behind. -/
theorem Passage.of_escaped {o : Options} {capture : Octets} (present : escapeByte ∈ capture)
    (ended : (decode o capture).decoded.halt = .endOfStream) : ∃ q : Passage o,
    (∀ tail, q.before tail = capture ++ tail) ∧ q.size = capture.length ∧
      ∀ tail, Escaped (q.words.flatten ++ tail) := by
  obtain ⟨q, rfl, escaped⟩ := of_ended ended
  have hne : q.words.flatten ≠ [] := by
    intro none
    rw [before, none, List.append_nil, List.append_nil] at present
    exact q.plain present
  refine ⟨q, fun tail => ?_, ?_, fun tail => escaped.append hne tail⟩
  · rw [before, before, List.append_nil, List.append_assoc]
  · rw [q.before_length]
    rfl

/-- A raster line at the end of the data is drawn as what came of it, however much its length promised.
The two decodes perform the same commands with the same strips. Only the halt tells that there was to be
more. -/
theorem cut_line_as_counted (o : Options) {capture payload : Octets} (present : escapeByte ∈ capture)
    (ended : (decode o capture).decoded.halt = .endOfStream) (form : RasterForm) (ignored : UInt8)
    {length : Nat} (short : payload.length < length) (fits : length < form.lengths) :
    let cut := capture ++ (form.head ignored length ++ payload)
    let counted := capture ++ (form.head ignored payload.length ++ payload)
    ∃ one other, (decode o cut).result = .ok one ∧ (decode o counted).result = .ok other ∧
      one.halt = .truncated capture.length ∧ one.pen = other.pen ∧ one.surface = other.surface ∧
      one.consumed = other.consumed ∧ one.opcodes = other.opcodes ∧
      ∃ n commands line, ((Decoder.opened o cut).walk o n).1.isFinished = true ∧
        ((Decoder.opened o counted).walk o n).1.isFinished = true ∧
        (Decoder.opened o cut).performed o n = commands ++ [.rasterLine form length line] ∧
        (Decoder.opened o counted).performed o n =
          commands ++ [.rasterLine form payload.length line] := by
  intro cut counted
  obtain ⟨q, hq, hsize, escaped⟩ := Passage.of_escaped present ended
  let g : Grammar := ⟨q.mode, o.acceptAnyGraphicsMode⟩
  let c : Cursor := ⟨q.size + 3, payload⟩
  have closes : ∀ n, n < form.lengths → payload.length ≤ n → ∃ d,
      q.Closes (form.head ignored n ++ payload) (.rasterLine form n (g.line n c)) d ∧
        (payload.length < n → d.halt = .truncated q.size) := by
    intro n hn hle
    have last : (q.behind (form.head ignored n ++ payload)).cursor.last = c.last := by
      simp only [Passage.behind, Decoder.ready, Cursor.last, List.length_append, form.head_length, c,
        Nat.add_assoc]
    have reads : (q.behind (form.head ignored n ++ payload)).reading o = g.readRaster form n c := by
      rw [q.reading_behind]
      exact RasterForm.read_head hn g ignored q.size payload
    obtain ⟨exhausts, lacks⟩ := g.readRaster_exhausts form (c := c) hle
    rw [← reads] at exhausts lacks
    unfold Reading.Exhausts at exhausts
    rw [← last] at exhausts lacks
    obtain ⟨d, hd, halt⟩ := q.exists_closes (escaped _) exhausts
    exact ⟨d, hd, fun hlt => halt (lacks hlt)⟩
  obtain ⟨one, hone, halt⟩ := closes length fits (Nat.le_of_lt short)
  obtain ⟨other, hother, _⟩ := closes payload.length (Nat.lt_trans short fits) (Nat.le_refl _)
  have hline : g.line payload.length c = g.line length c :=
    g.line_to_end (Nat.le_refl _) (Nat.le_of_lt short)
  have sheet : Sheet.mk one.pen one.surface = Sheet.mk other.pen other.surface := by
    rw [hone.sheet, hother.sheet, hline]
    rfl
  have consumed : one.consumed = other.consumed := by
    rw [hone.consumed, hother.consumed, q.before_length, q.before_length, List.length_append,
      List.length_append, form.head_length, form.head_length]
  obtain ⟨hpen, hsurface⟩ := Sheet.mk.inj sheet
  have hcut : q.before (form.head ignored length ++ payload) = cut := hq _
  have hcounted : q.before (form.head ignored payload.length ++ payload) = counted := hq _
  refine ⟨one, other, hcut ▸ hone.result, hcounted ▸ hother.result, hsize ▸ halt short, hpen, hsurface,
    consumed, hone.opcodes.trans hother.opcodes.symm, q.words.length + 1, q.commands, g.line length c,
    hcut ▸ hone.finished, hcounted ▸ hother.finished, hcut ▸ hone.performed, ?_⟩
  rw [← hcounted, hother.performed, hline]

/-- A reset, and raster lines are coded from then on. -/
def codedReset : Octets := [0x1B, 0x40, 0x4D, 0x02]

/-- Two of three literals, in a line that was to have 300 bytes. -/
theorem codedReset_cut_in_run :
    escapeByte ∈ codedReset ∧ (decode .standard codedReset).decoded.halt = .endOfStream ∧
    ([0x02, 0xFF, 0x81] : Octets).length < 300 ∧ 300 < RasterForm.long.lengths ∧
    ∃ one other,
      (decode .standard (codedReset ++ [0x47, 0x2C, 0x01, 0x02, 0xFF, 0x81])).result = .ok one ∧
      (decode .standard (codedReset ++ [0x47, 0x03, 0x00, 0x02, 0xFF, 0x81])).result = .ok other ∧
      one.halt = .truncated 4 ∧ one.pen = other.pen ∧ one.surface = other.surface ∧
      one.consumed = other.consumed ∧ one.opcodes = other.opcodes ∧ other.opcodes = 3 ∧
      other.pen.ymax = 16 := by
  have present : escapeByte ∈ codedReset := List.mem_cons_self
  have short : ([0x02, 0xFF, 0x81] : Octets).length < 300 := by decide
  have fits : 300 < RasterForm.long.lengths := by decide
  have hf : ((Decoder.opened .standard codedReset).walk .standard 2).1.isFinished = true := rfl
  have ended : (decode .standard codedReset).decoded.halt = .endOfStream := by
    rw [decode_decoded (decode_result .standard codedReset hf)]
    rfl
  obtain ⟨one, other, hone, hother, halt, pen, surface, consumed, opcodes, _⟩ :=
    cut_line_as_counted .standard present ended .long 0 short fits
  have hcounted : (decode .standard (codedReset ++ [0x47, 0x03, 0x00, 0x02, 0xFF, 0x81])).result =
      .ok other := hother
  have hl : ((Decoder.opened .standard (codedReset ++ [0x47, 0x03, 0x00, 0x02, 0xFF, 0x81])).walk
    .standard 3).1.isFinished = true := by decide +kernel
  have known := decode_decoded (decode_result .standard _ hl)
  rw [Outcome.decoded, hcounted] at known
  change other = _ at known
  refine ⟨present, ended, short, fits, one, other, hone, hother, halt, pen, surface, consumed, opcodes,
    ?_, ?_⟩
  · rw [known]
    decide +kernel
  · rw [known]
    decide +kernel

end LabelStream
