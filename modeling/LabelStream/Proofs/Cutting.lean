import LabelStream.Proofs.Growth
import LabelStream.Proofs.Stopping

/-! A capture that was cut short. A command at the cut has less data than it would have, and less
data never takes the pen further, so a shorter capture is decoded to less of the same. -/
namespace LabelStream

/-- The same command with less of its data, or with all of it. -/
inductive Command.Part : Command → Command → Prop
  | same (command : Command) : Part command command
  | setting {code : UInt8} {operands longer : Octets} (arrived : operands <+: longer) :
      Part (.setting code operands) (.setting code longer)
  | bitImage {mode : UInt8} {columns : Nat} {dots longer : Octets} (arrived : dots <+: longer) :
      Part (.bitImage mode columns dots) (.bitImage mode columns longer)
  | rasterLine {form : RasterForm} {length : Nat} {line longer : Octets} (arrived : line <+: longer) :
      Part (.rasterLine form length line) (.rasterLine form length longer)

/-- A reading performs less than another of the same command, if it performs any. -/
def Reading.Part (r longer : Reading) : Prop :=
  ∀ command, r.command? = some command → ∃ whole, longer.command? = some whole ∧ command.Part whole

theorem Reading.part_of_none {r : Reading} (h : r.command? = none) (longer : Reading) :
    r.Part longer := by
  intro command hc
  rw [h] at hc
  cases hc

theorem Reading.part_of_some {r longer : Reading} {command whole : Command}
    (h : r.command? = some command) (h' : longer.command? = some whole) (part : command.Part whole) :
    r.Part longer := by
  intro read hc
  rw [h] at hc
  cases hc
  exact ⟨whole, h', part⟩

namespace Grammar

theorem take_grows (n : Nat) (bytes more : Octets) : bytes.take n <+: (bytes ++ more).take n := by
  rw [List.take_append]
  exact List.prefix_append _ _

/-- The strips that are read for a raster line, whether they are all it should have or not. -/
def line (g : Grammar) (length : Nat) (c : Cursor) : Octets :=
  if g.compressed then (RunLength.expand length c).output else c.rest.take length

theorem readRaster_command (g : Grammar) (form : RasterForm) (length : Nat) (c : Cursor) :
    (g.readRaster form length c).command? = some (.rasterLine form length (g.line length c)) := by
  unfold readRaster line
  cases g.compressed with
  | true =>
      simp only [if_true]
      split <;> rfl
  | false =>
      simp only [Bool.false_eq_true, if_false]
      split <;> rfl

theorem line_grows (g : Grammar) (length p : Nat) (bytes more : Octets) :
    g.line length ⟨p, bytes⟩ <+: g.line length ⟨p, bytes ++ more⟩ := by
  unfold line
  cases g.compressed with
  | true => exact RunLength.readRuns_output_prefix (p + length) [] ⟨p, bytes⟩ more
  | false => exact take_grows length bytes more

theorem readRaster_part (g : Grammar) (form : RasterForm) (length p : Nat) (bytes more : Octets) :
    (g.readRaster form length ⟨p, bytes⟩).Part (g.readRaster form length ⟨p, bytes ++ more⟩) :=
  Reading.part_of_some (g.readRaster_command form length _) (g.readRaster_command form length _)
    (.rasterLine (g.line_grows length p bytes more))

theorem readSetting_command (p : Nat) (code : UInt8) (bytes : Octets) :
    (readSetting ⟨p, code :: bytes⟩).command? =
      some (.setting code (bytes.take (Setting.ofByte code).operandCount)) := by
  simp only [readSetting, Cursor.next]
  split <;> rfl

theorem readSetting_part (p : Nat) (bytes more : Octets) :
    (readSetting ⟨p, bytes⟩).Part (readSetting ⟨p, bytes ++ more⟩) := by
  rcases bytes with _ | ⟨code, bytes⟩
  · exact Reading.part_of_none rfl _
  · exact Reading.part_of_some (readSetting_command p code bytes) (readSetting_command p code _)
      (.setting (take_grows _ bytes more))

theorem readBitImage_command {g : Grammar} {mode : UInt8}
    (accepted : ¬ (mode ≠ bitImageMode ∧ g.lenient = false)) (p : Nat) (low high : UInt8)
    (bytes : Octets) :
    (g.readBitImage ⟨p, mode :: low :: high :: bytes⟩).command? =
      some (.bitImage mode (pairValue low high) (bytes.take (3 * pairValue low high))) := by
  simp only [readBitImage, Cursor.next, if_neg accepted, Cursor.nextPair]
  split <;> rfl

theorem readBitImage_part (g : Grammar) (p : Nat) (bytes more : Octets) :
    (g.readBitImage ⟨p, bytes⟩).Part (g.readBitImage ⟨p, bytes ++ more⟩) := by
  rcases bytes with _ | ⟨mode, bytes⟩
  · exact Reading.part_of_none rfl _
  by_cases refused : mode ≠ bitImageMode ∧ g.lenient = false
  · refine Reading.part_of_none ?_ _
    simp only [readBitImage, Cursor.next, if_pos refused]
    rfl
  rcases bytes with _ | ⟨low, _ | ⟨high, bytes⟩⟩
  · refine Reading.part_of_none ?_ _
    simp only [readBitImage, Cursor.next, if_neg refused]
    rfl
  · refine Reading.part_of_none ?_ _
    simp only [readBitImage, Cursor.next, if_neg refused]
    rfl
  · exact Reading.part_of_some (readBitImage_command refused p low high bytes)
      (readBitImage_command refused p low high _) (.bitImage (take_grows _ bytes more))

theorem readEscape_part (g : Grammar) (p : Nat) (bytes more : Octets) :
    (g.readEscape ⟨p, bytes⟩).Part (g.readEscape ⟨p, bytes ++ more⟩) := by
  rcases bytes with _ | ⟨byte, bytes⟩
  · exact Reading.part_of_none rfl _
  simp only [List.cons_append, readEscape, Cursor.next]
  cases Escape.ofByte byte with
  | reset => exact Reading.part_of_some rfl rfl (.same _)
  | relativeMove =>
      rcases bytes with _ | ⟨low, _ | ⟨high, bytes⟩⟩
      · exact Reading.part_of_none rfl _
      · exact Reading.part_of_none rfl _
      · exact Reading.part_of_some rfl rfl (.same _)
  | setting => exact readSetting_part (p + 1) bytes more
  | bitImage => exact g.readBitImage_part (p + 1) bytes more
  | unknown byte => exact Reading.part_of_none rfl _

/-- More data lets a reading perform the same command with more of its data. -/
theorem read_part (g : Grammar) (p : Nat) (bytes more : Octets) :
    (g.read ⟨p, bytes⟩).Part (g.read ⟨p, bytes ++ more⟩) := by
  rcases bytes with _ | ⟨byte, bytes⟩
  · exact Reading.part_of_none rfl _
  simp only [List.cons_append, read, Cursor.next]
  cases Opcode.ofByte byte with
  | escape => exact g.readEscape_part (p + 1) bytes more
  | rasterLine =>
      rcases bytes with _ | ⟨low, _ | ⟨high, bytes⟩⟩
      · exact Reading.part_of_none rfl _
      · exact Reading.part_of_none rfl _
      · exact g.readRaster_part .long (pairValue low high) (p + 3) bytes more
  | rasterLineShort =>
      rcases bytes with _ | ⟨ignored, _ | ⟨length, bytes⟩⟩
      · exact Reading.part_of_none rfl _
      · exact Reading.part_of_none rfl _
      · exact g.readRaster_part .short length.toNat (p + 3) bytes more
  | compression =>
      rcases bytes with _ | ⟨kind, bytes⟩
      · exact Reading.part_of_none rfl _
      · exact Reading.part_of_some rfl rfl (.same _)
  | null => exact Reading.part_of_none rfl _
  | unknown byte => exact Reading.part_of_none rfl _
  | blankLine => exact Reading.part_of_some rfl rfl (.same _)
  | printFeed code => exact Reading.part_of_some rfl rfl (.same _)
  | formFeed => exact Reading.part_of_some rfl rfl (.same _)
  | carriageReturn => exact Reading.part_of_some rfl rfl (.same _)
  | lineFeed => exact Reading.part_of_some rfl rfl (.same _)

end Grammar

namespace Bar

/-- For every bar there is one of the same sort that reaches as far down. -/
def Covered (bars others : List Bar) : Prop :=
  ∀ bar ∈ bars, ∃ other ∈ others, bar.filler = other.filler ∧ bar.bottom ≤ other.bottom

theorem bottom_mono {x y x' : Nat} {dots longer : Octets} {filler filler' : Bool}
    (h : dots.length ≤ longer.length) :
    (Bar.mk x y dots filler).bottom ≤ (Bar.mk x' y longer filler').bottom := by
  simp only [bottom]
  split
  · exact Nat.zero_le _
  · rw [if_neg (by omega)]
    exact Nat.add_le_add_left (Nat.mul_le_mul_left _ h) y

theorem Covered.visible {bars others : List Bar} (h : Covered bars others) (o : Options) :
    Covered (Decoder.visibleBars o bars) (Decoder.visibleBars o others) := by
  unfold Decoder.visibleBars
  split
  · exact h
  · intro bar hb
    obtain ⟨hmem, hf⟩ := List.mem_filter.mp hb
    obtain ⟨other, ho, hs, hle⟩ := h bar hmem
    exact ⟨other, List.mem_filter.mpr ⟨ho, hs ▸ hf⟩, hs, hle⟩

theorem Covered.reach {bars others : List Bar} (h : Covered bars others) {pen later : Pen}
    (hp : pen.Within later) : (bars.foldl reach pen).Within (others.foldl reach later) := by
  rw [foldl_reach, foldl_reach]
  refine ⟨hp.xmin_le, hp.xmax_le, ?_, hp.compression⟩
  obtain ⟨hstart, hrows⟩ := (foldl_max_le_iff _ later.ymax _).mp (Nat.le_refl _)
  refine (foldl_max_le_iff _ _ _).mpr ⟨Nat.le_trans hp.ymax_le hstart, ?_⟩
  intro row hr
  obtain ⟨bar, hb, rfl⟩ := List.mem_map.mp hr
  obtain ⟨other, ho, _, hle⟩ := h bar hb
  exact Nat.le_trans hle (hrows _ (List.mem_map_of_mem ho))

theorem rasterBars_covered {line longer : Octets} (h : line <+: longer) (x : Nat) :
    Covered (rasterBars x line) (rasterBars x longer) := by
  have hl := h.length_le
  intro bar hb
  simp only [rasterBars, List.mem_cons, List.not_mem_nil, or_false] at hb
  rcases hb with rfl | rfl
  · exact ⟨_, List.mem_cons_self, rfl, bottom_mono hl⟩
  · refine ⟨_, List.mem_cons_of_mem _ List.mem_cons_self, rfl, bottom_mono ?_⟩
    rw [List.length_replicate, List.length_replicate]
    exact hl

/-- The first strips of a bit image make a bar, be they a whole column or less. -/
theorem first_mem_bitImageBars (x y : Nat) (a : UInt8) (dots : Octets) :
    Bar.mk x y ((a :: dots).take 3) false ∈ bitImageBars [] x y (a :: dots) := by
  rcases dots with _ | ⟨b, _ | ⟨c, dots⟩⟩
  · exact List.mem_cons_self
  · exact List.mem_cons_self
  · have ht := Sheet.bitImageBars_triple x y ⟨a, b, c⟩ dots
    change bitImageBars [] x y (a :: b :: c :: dots) = _ at ht
    rw [ht]
    exact List.mem_cons_self

theorem start_covered (x y : Nat) (a : UInt8) (dots : Octets) (short : (a :: dots).length ≤ 3)
    (tail : Octets) :
    Covered [⟨x, y, a :: dots, false⟩] (bitImageBars [] x y (a :: dots ++ tail)) := by
  intro bar hb
  rw [List.mem_singleton.mp hb]
  refine ⟨_, first_mem_bitImageBars x y a (dots ++ tail), rfl, bottom_mono ?_⟩
  simp only [List.length_take, List.length_cons, List.length_append] at short ⊢
  omega

theorem bitImageBars_covered (x y : Nat) : ∀ dots tail : Octets,
    Covered (bitImageBars [] x y dots) (bitImageBars [] x y (dots ++ tail))
  | [], _ => fun bar hb => absurd hb List.not_mem_nil
  | [a], tail => start_covered x y a [] (by simp) tail
  | [a, b], tail => start_covered x y a [b] (by simp) tail
  | a :: b :: c :: dots, tail => by
      -- Both images begin with this column; the rest is one column further right.
      have hshort := Sheet.bitImageBars_triple x y ⟨a, b, c⟩ dots
      have hlong := Sheet.bitImageBars_triple x y ⟨a, b, c⟩ (dots ++ tail)
      change bitImageBars [] x y (a :: b :: c :: dots) = _ at hshort
      change bitImageBars [] x y (a :: b :: c :: dots ++ tail) = _ at hlong
      rw [hshort, hlong]
      intro bar hb
      rcases List.mem_append.mp hb with hb | hb
      · exact ⟨bar, List.mem_append_left _ hb, rfl, Nat.le_refl _⟩
      · obtain ⟨other, ho, hs, hle⟩ := bitImageBars_covered (x + 1) y dots tail bar hb
        exact ⟨other, List.mem_append_right _ ho, hs, hle⟩

end Bar

/-- Less data takes the pen no further. -/
theorem Command.Part.penAfter_within {command whole : Command} (h : command.Part whole) (o : Options)
    (pen : Pen) : (command.penAfter o pen).Within (whole.penAfter o pen) := by
  cases h with
  | same => exact .refl _
  | setting arrived => exact .refl _
  | @bitImage mode columns dots longer arrived =>
      obtain ⟨tail, rfl⟩ := arrived
      refine ((Bar.bitImageBars_covered pen.xpos pen.ypos dots tail).visible o).reach ?_
      have hx : pen.xpos + dots.length / 3 ≤ pen.xpos + (dots ++ tail).length / 3 := by
        rw [List.length_append]
        omega
      refine ⟨Nat.le_refl _, ?_, Nat.le_refl _, id⟩
      exact Nat.max_le.mpr ⟨Nat.le_max_left _ _, Nat.le_trans hx (Nat.le_max_right _ _)⟩
  | rasterLine arrived =>
      exact ((Bar.rasterBars_covered arrived pen.xpos).visible o).reach (.refl _)

namespace Decoder

variable (o : Options)

/-- A decoder at the cut is behind the one that goes on from the same place. -/
theorem advance_cut_before {p n : Nat} {tail more : Octets} {s : Sheet} (present : tail ≠ [])
    (h : s.pen.Ordered) :
    ((ready ⟨p, tail⟩ n s).advance o).1.Before ((ready ⟨p, tail ++ more⟩ n s).advance o).1 := by
  have hcut : (ready ⟨p, tail⟩ n s).cursor.atEnd = false := by
    exact List.isEmpty_eq_false_iff.mpr present
  have hlong : (ready ⟨p, tail ++ more⟩ n s).cursor.atEnd = false := by
    exact List.isEmpty_eq_false_iff.mpr (List.append_ne_nil_of_left_ne_nil present more)
  refine ⟨?opcodes, ?within⟩
  case opcodes =>
    rw [advance_opcodes o hcut, advance_opcodes o hlong]
    exact Nat.le_refl _
  case within =>
    have hpart := Grammar.read_part ⟨s.pen.compression, o.acceptAnyGraphicsMode⟩ p tail more
    rw [advance_pen o (ready ⟨p, tail⟩ n s), reading_ready]
    cases hr : (Grammar.read ⟨s.pen.compression, o.acceptAnyGraphicsMode⟩ ⟨p, tail⟩).command? with
    | none => exact (@advance_before o (ready ⟨p, tail ++ more⟩ n s) h).1.pen_within
    | some command =>
        obtain ⟨whole, hw, part⟩ := hpart command hr
        rw [advance_pen, reading_ready, hw]
        exact part.penAfter_within o s.pen

end Decoder

theorem Sheet.perform_pen (o : Options) (s : Sheet) (command : Command) :
    (s.perform o command).pen = command.penAfter o s.pen := by
  rw [Sheet.perform, Sheet.foldl_bar]
  rfl

theorem Sheet.foldl_perform_ordered (o : Options) (commands : List Command) {s : Sheet}
    (h : s.pen.Ordered) : (commands.foldl (Sheet.perform o) s).pen.Ordered := by
  induction commands generalizing s with
  | nil => exact h
  | cons command commands ih =>
      apply ih
      rw [Sheet.perform_pen]
      exact command.penAfter_ordered o h

theorem Sentence.flatten_ne_nil {lenient mode last : Bool} {words : List Octets}
    {commands : List Command} (h : Sentence lenient mode words commands last) (present : words ≠ []) :
    words.flatten ≠ [] := by
  cases h with
  | nil => exact absurd rfl present
  | cons spelt rest => exact List.append_ne_nil_of_left_ne_nil spelt.ne_nil _

/-- Bytes that stop a decode stop it wherever the data ends behind the one to blame. -/
theorem Ends.take {g : Grammar} {bytes : Octets} {ending : Ending} {offset : Nat} {byte : UInt8}
    (h : Ends g bytes ending) (hs : ending.stop? = some (offset, byte)) {k : Nat} (hk : offset < k) :
    Ends g (bytes.take k) ending := by
  obtain ⟨j, rfl⟩ := Nat.exists_eq_add_of_lt hk
  cases h with
  | clean => cases hs
  | cut present missing spelt => cases hs
  | terminator tail =>
      cases hs
      rw [Nat.zero_add, List.take_succ_cons]
      exact .terminator _
  | refused refusal =>
      cases hs
      refine .refused ?_
      cases refusal with
      | opcode tail zero unknown =>
          rw [Nat.zero_add, List.take_succ_cons]
          exact .opcode _ zero unknown
      | escape tail unknown =>
          rw [Nat.add_comm 1 j, List.take_succ_cons, List.take_succ_cons]
          exact .escape _ unknown
      | graphics tail other strict =>
          rw [Nat.add_comm 2 j, List.take_succ_cons, List.take_succ_cons, List.take_succ_cons]
          exact .graphics _ other strict

theorem Ends.append {g : Grammar} {bytes : Octets} {ending : Ending} {offset : Nat} {byte : UInt8}
    (h : Ends g bytes ending) (hs : ending.stop? = some (offset, byte)) (more : Octets) :
    Ends g (bytes ++ more) ending := by
  cases h with
  | clean => cases hs
  | cut present missing spelt => cases hs
  | terminator tail => exact .terminator (tail ++ more)
  | refused refusal => exact .refused (refusal.append more)

namespace Passage

variable {o : Options} (q : Passage o)

theorem drawn_ordered : q.drawn.pen.Ordered :=
  Sheet.foldl_perform_ordered o q.commands (s := ⟨.home, .blank o.maxWidth o.maxHeight⟩) (Nat.le_refl 0)

/-- The decode of what begins with a passage goes on from behind it, by one command at least. -/
theorem exists_last {tail : Octets} (he : Escaped (q.words.flatten ++ tail)) :
    ∃ n trace, (decode o (q.before tail)).decoded =
      (((q.behind tail).advance o).1.walk o n).1.decoded trace := by
  obtain ⟨told, ht⟩ := q.exists_tells
  obtain ⟨n, hf⟩ := Decoder.exists_walk_finished o ((q.behind tail).advance o).1
  have hw := Decoder.walk_succ o (show (q.behind tail).isFinished = false from rfl) n
  exact ⟨n, _, decode_decoded (ht tail he (n + 1) _ _ hw hf)⟩

end Passage

/-- Bytes behind the one that stops a decode are never looked at. -/
theorem StoppedAt.take {o : Options} {capture : Octets} {p k : Nat}
    (h : StoppedAt p (decode o capture).result) (hk : p < k) :
    (decode o (capture.take k)).result = (decode o capture).result := by
  obtain ⟨q, tail, ending, offset, byte, rfl, he, hends, hs, rfl⟩ := h.passage
  obtain ⟨told, ht⟩ := q.exists_tells
  obtain ⟨j, rfl⟩ := Nat.exists_eq_add_of_le (show q.size ≤ k by omega)
  have hshort : Escaped (q.words.flatten ++ tail.take j) := by
    rw [← List.take_append_drop j tail, ← List.append_assoc] at he
    exact he.of_append
  rw [q.before_take, ht.stop he hends hs, ht.stop hshort (hends.take hs (by omega)) hs]

/-- The decode of a capture that was cut short at `k` ended with the data, and less of everything. -/
structure CutShort (k : Nat) (cut whole : Decoded) : Prop where
  halt : cut.halt = .endOfStream ∨ ∃ p, cut.halt = .truncated p
  consumed : cut.consumed = k
  opcodes_le : cut.opcodes ≤ whole.opcodes
  pen_within : cut.pen.Within whole.pen

theorem CutShort.of_before {k : Nat} {d later : Decoder} {trace trace' : Option (List Event)}
    (halt : d.ending = .endOfStream ∨ ∃ p, d.ending = .truncated p) (consumed : d.position = k)
    (h : d.Before later) : CutShort k (d.decoded trace) (later.decoded trace') :=
  ⟨halt, consumed, h.opcodes_le, h.pen_within⟩

namespace Passage

variable {o : Options} (q : Passage o)

theorem drawn_of_nil (h : q.words = []) :
    q.drawn = ⟨.home, .blank o.maxWidth o.maxHeight⟩ ∧ q.words.length = 0 := by
  rcases q with ⟨preamble, words, commands, mode, plain, spelt⟩
  cases h
  cases spelt
  exact ⟨rfl, rfl⟩

theorem cutShort_closed (he : Escaped q.words.flatten) (more : Octets) (trace : Option (List Event)) :
    CutShort q.size (q.closed.decoded trace) (decode o (q.before more)).decoded := by
  by_cases hw : q.words = []
  · -- What follows may lengthen the preamble, but then nothing was drawn yet.
    obtain ⟨hd, hn⟩ := q.drawn_of_nil hw
    refine ⟨.inl rfl, rfl, ?_, ?_⟩
    · exact Nat.le_trans (Nat.le_of_eq hn) (Nat.zero_le _)
    · change q.drawn.pen.Within _
      rw [hd]
      exact Pen.home_within _
  · obtain ⟨n, trace', hl⟩ := q.exists_last (he.append (q.spelt.flatten_ne_nil hw) more)
    obtain ⟨hb, ho⟩ := Decoder.advance_before o (d := q.behind more) q.drawn_ordered
    have hlater : q.closed.Before (((q.behind more).advance o).1.walk o n).1 :=
      Decoder.Before.trans ⟨hb.opcodes_le, hb.pen_within⟩ (Decoder.walk_before o ho n).1
    rw [hl]
    exact .of_before (.inl rfl) rfl hlater

theorem cutShort_cut {tail missing : Octets} {command : Command}
    (he : Escaped (q.words.flatten ++ tail)) (present : tail ≠ []) (lacks : missing ≠ [])
    (spelt : Spells ⟨q.mode, o.acceptAnyGraphicsMode⟩ (tail ++ missing) command) (more : Octets) :
    ∃ d, (decode o (q.before tail)).result = .ok d ∧
      CutShort (q.size + tail.length) d (decode o (q.before (tail ++ more))).decoded := by
  obtain ⟨fragment, hr⟩ := Grammar.read_start present lacks spelt q.size
  rw [← q.reading_behind] at hr
  obtain ⟨hphase, hcursor⟩ := Decoder.advance_cut o hr
  have hf : ((q.behind tail).advance o).1.isFinished = true := by
    simp only [Decoder.isFinished, hphase]
  have hw : (q.behind tail).walk o 1 = (q.behind tail).advance o := by
    rw [Decoder.walk_succ o rfl, Decoder.walk_of_finished o hf, List.append_nil]
  obtain ⟨told, ht⟩ := q.exists_tells
  have hresult := ht tail he 1 _ _ hw hf
  obtain ⟨hok, hhalt, hconsumed⟩ := Decoder.result_halted hphase (if o.trace then
    some (told ++ ((q.behind tail).advance o).2 ++ [((q.behind tail).advance o).1.summary]) else none)
  rw [hcursor] at hconsumed
  have hescaped : Escaped (q.words.flatten ++ (tail ++ more)) := by
    rw [← List.append_assoc]
    exact he.append (List.append_ne_nil_of_right_ne_nil _ present) more
  obtain ⟨n, trace, hl⟩ := q.exists_last hescaped
  have hcut : ((q.behind tail).advance o).1.Before ((q.behind (tail ++ more)).advance o).1 :=
    Decoder.advance_cut_before o present q.drawn_ordered
  have ho := (Decoder.advance_before o (d := q.behind (tail ++ more)) q.drawn_ordered).2
  have hlater := Decoder.Before.trans hcut (Decoder.walk_before o ho n).1
  rw [hl]
  exact ⟨_, hresult.trans hok, .of_before (.inr ⟨_, hhalt⟩) hconsumed hlater⟩

end Passage

/-- What stops a decode stops it whatever follows. -/
theorem Passage.stop_append {o : Options} (q : Passage o) {tail : Octets} {ending : Ending}
    {offset : Nat} {byte : UInt8} (he : Escaped (q.words.flatten ++ tail))
    (hends : Ends ⟨q.mode, o.acceptAnyGraphicsMode⟩ tail ending)
    (hs : ending.stop? = some (offset, byte)) (more : Octets) :
    q.size + offset < q.size + tail.length ∧
      StoppedAt (q.size + offset) (decode o (q.before tail)).result ∧
      (decode o (q.before tail)).result = (decode o (q.before (tail ++ more))).result := by
  obtain ⟨told, ht⟩ := q.exists_tells
  obtain ⟨hlt, _⟩ := List.getElem?_eq_some_iff.mp (hends.stop_byte hs)
  have present : q.words.flatten ++ tail ≠ [] :=
    List.append_ne_nil_of_right_ne_nil _ (List.ne_nil_of_length_pos (Nat.zero_lt_of_lt hlt))
  have hlong := he.append present more
  rw [List.append_assoc] at hlong
  refine ⟨Nat.add_lt_add_left hlt _, ?_, ?_⟩
  · rw [ht.stop he hends hs]
    exact (q.blamed_stopped hends hs _).stoppedAt
  · rw [ht.stop he hends hs, ht.stop hlong (hends.append hs more) hs]

/-- A capture that is cut short stops as the whole does, or ends with the data. -/
theorem decode_take_cases (o : Options) {capture : Octets} {k : Nat} (hk : k ≤ capture.length) :
    (∃ p, p < k ∧ StoppedAt p (decode o (capture.take k)).result ∧
      (decode o (capture.take k)).result = (decode o capture).result) ∨
    ∃ d, (decode o (capture.take k)).result = .ok d ∧ CutShort k d (decode o capture).decoded := by
  -- The part before the cut is taken to pieces. What was cut off then only lengthens its tail.
  obtain ⟨parse, h⟩ := Parse.exists_of o (capture.take k)
  obtain ⟨q, tail, _, _, hc, he, hends⟩ := h.passage
  obtain ⟨more, hmore⟩ : ∃ more, more = capture.drop k := ⟨_, rfl⟩
  have hwhole : capture = q.before (tail ++ more) := by
    rw [← List.take_append_drop k capture, hc, hmore, Passage.before, Passage.before, List.append_assoc,
      List.append_assoc]
  have hlength : k = q.size + tail.length := by
    rw [← q.before_length, ← hc, List.length_take, Nat.min_eq_left hk]
  rw [hc, hwhole, hlength]
  generalize parse.ending = ending at hends
  cases hs : ending.stop? with
  | some stop => exact .inl ⟨_, q.stop_append he hends hs more⟩
  | none =>
      cases hends with
      | clean =>
          rw [List.append_nil] at he
          obtain ⟨told, ht⟩ := q.exists_tells
          exact .inr ⟨_, ht.closed he, q.cutShort_closed he more _⟩
      | cut present missing spelt => exact .inr (q.cutShort_cut he present missing spelt more)
      | terminator => cases hs
      | refused => cases hs

/-- A capture that is cut decodes as the whole does if that stops before the cut. Otherwise it ends
with the data and has less of everything. -/
theorem cutting_monotone (o : Options) (capture : Octets) (k : Nat) (hk : k ≤ capture.length) :
    (((∃ p, StoppedAt p (decode o capture).result) ∧ (decode o capture).decoded.consumed ≤ k) →
      (decode o (capture.take k)).result = (decode o capture).result) ∧
    (¬ ((∃ p, StoppedAt p (decode o capture).result) ∧ (decode o capture).decoded.consumed ≤ k) →
      ∃ d, (decode o (capture.take k)).result = .ok d ∧ CutShort k d (decode o capture).decoded) ∧
    ∀ failure, (decode o (capture.take k)).result = .error failure →
      (decode o capture).result = .error failure := by
  refine ⟨?stopped, ?otherwise, ?errors⟩
  case stopped =>
    rintro ⟨⟨p, hp⟩, hle⟩
    rw [hp.consumed] at hle
    exact hp.take hle
  case otherwise =>
    intro hn
    rcases decode_take_cases o hk with ⟨p, hp, hs, he⟩ | h
    · rw [he] at hs
      exact absurd ⟨⟨p, hs⟩, hs.consumed ▸ hp⟩ hn
    · exact h
  case errors =>
    intro failure hf
    rcases decode_take_cases o hk with ⟨p, _, _, he⟩ | ⟨d, hd, _⟩
    · rw [← he, hf]
    · rw [hd] at hf
      cases hf

/-- A reset and a bit image of two columns. -/
def twoColumns : Octets :=
  [0x1B, 0x40, 0x1B, 0x2A, 0x27, 0x02, 0x00, 0xFF, 0x81, 0x3C, 0x18, 0x00, 0x42]

theorem twoColumns_cut_in_column :
    11 ≤ twoColumns.length ∧ (∃ d, (decode .traced (twoColumns.take 11)).result = .ok d ∧
      CutShort 11 d (decode .traced twoColumns).decoded) ∧
    ∀ failure, (decode .traced (twoColumns.take 11)).result = .error failure →
      (decode .traced twoColumns).result = .error failure := by
  have hk : 11 ≤ twoColumns.length := by decide
  have hgoes : ¬ ∃ p, StoppedAt p (decode .traced twoColumns).result := by
    rintro ⟨p, hp⟩
    have hf : ((Decoder.opened .traced twoColumns).walk .traced 2).1.isFinished = true := rfl
    rw [decode_result .traced twoColumns hf] at hp
    cases hp
  obtain ⟨_, hotherwise, herrors⟩ := cutting_monotone .traced twoColumns 11 hk
  exact ⟨hk, hotherwise fun h => hgoes h.1, herrors⟩

end LabelStream
