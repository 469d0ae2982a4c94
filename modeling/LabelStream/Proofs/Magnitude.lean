import LabelStream.Proofs.Cutting
import LabelStream.Proofs.Expanding
import LabelStream.Proofs.HighWater
import LabelStream.Proofs.Turns

/-! How large the marks of a decode can get. A command pays for what it does with its bytes, at most
so many columns and rows for each, and the bytes that are still unread have not been spent. -/
namespace LabelStream

/-- So many bytes are enough for the command. -/
def Command.Costs (n : Nat) : Command → Prop
  | relativeMove dots => dots < 65536 ∧ 4 ≤ n
  | bitImage _ _ dots => dots.length + 5 ≤ n
  | rasterLine _ _ line => 0 < n ∧ 2 * line.length ≤ 129 * n
  | _ => 0 < n

namespace Grammar

theorem line_le (g : Grammar) (length : Nat) (c : Cursor) :
    2 * (g.line length c).length ≤ 129 * c.rest.length := by
  unfold line
  cases g.compressed with
  | true => exact RunLength.expand_output_le length c
  | false =>
      have h := List.length_take_le' length c.rest
      simp only [Bool.false_eq_true, if_false]
      omega

end Grammar

/-- The command that is performed on a reading, if there is one, costs no more than `n` bytes. -/
def Reading.Paid (n : Nat) (r : Reading) : Prop :=
  ∀ command, r.command? = some command → command.Costs n

theorem Reading.paid_of_none {r : Reading} (h : r.command? = none) (n : Nat) : r.Paid n := by
  intro command hc
  rw [h] at hc
  cases hc

theorem Reading.paid_of_some {r : Reading} {command : Command} {n : Nat}
    (h : r.command? = some command) (costs : command.Costs n) : r.Paid n := by
  intro command' hc
  rw [h] at hc
  cases hc
  exact costs

namespace Grammar

theorem readRaster_paid (g : Grammar) (form : RasterForm) (length : Nat) (c : Cursor) {n : Nat}
    (h : c.rest.length < n) : (g.readRaster form length c).Paid n := by
  have hl := g.line_le length c
  refine Reading.paid_of_some (g.readRaster_command form length c) ⟨Nat.zero_lt_of_lt h, ?_⟩
  omega

theorem readSetting_paid (p : Nat) (bytes : Octets) :
    (readSetting ⟨p, bytes⟩).Paid (bytes.length + 2) := by
  rcases bytes with _ | ⟨code, bytes⟩
  · exact Reading.paid_of_none rfl _
  · exact Reading.paid_of_some (readSetting_command p code bytes) (Nat.succ_pos _)

theorem readBitImage_paid (g : Grammar) (p : Nat) (bytes : Octets) :
    (g.readBitImage ⟨p, bytes⟩).Paid (bytes.length + 2) := by
  rcases bytes with _ | ⟨mode, bytes⟩
  · exact Reading.paid_of_none rfl _
  by_cases refused : mode ≠ bitImageMode ∧ g.lenient = false
  · refine Reading.paid_of_none ?_ _
    simp only [readBitImage, Cursor.next, if_pos refused]
    rfl
  rcases bytes with _ | ⟨low, _ | ⟨high, bytes⟩⟩
  · refine Reading.paid_of_none ?_ _
    simp only [readBitImage, Cursor.next, if_neg refused]
    rfl
  · refine Reading.paid_of_none ?_ _
    simp only [readBitImage, Cursor.next, if_neg refused]
    rfl
  · refine Reading.paid_of_some (readBitImage_command refused p low high bytes) ?_
    exact Nat.add_le_add_right (List.length_take_le' _ _) 5

theorem readEscape_paid (g : Grammar) (p : Nat) (bytes : Octets) :
    (g.readEscape ⟨p, bytes⟩).Paid (bytes.length + 1) := by
  rcases bytes with _ | ⟨byte, bytes⟩
  · exact Reading.paid_of_none rfl _
  simp only [readEscape, Cursor.next]
  cases Escape.ofByte byte with
  | reset => exact Reading.paid_of_some rfl (Nat.succ_pos _)
  | relativeMove =>
      rcases bytes with _ | ⟨low, _ | ⟨high, bytes⟩⟩
      · exact Reading.paid_of_none rfl _
      · exact Reading.paid_of_none rfl _
      · exact Reading.paid_of_some rfl ⟨pairValue_lt low high, Nat.le_add_left 4 _⟩
  | setting => exact readSetting_paid (p + 1) bytes
  | bitImage => exact g.readBitImage_paid (p + 1) bytes
  | unknown byte => exact Reading.paid_of_none rfl _

/-- A command that is read is paid for with the bytes that were there. -/
theorem read_paid (g : Grammar) (c : Cursor) : (g.read c).Paid c.rest.length := by
  rcases c with ⟨p, _ | ⟨byte, bytes⟩⟩
  · exact Reading.paid_of_none rfl _
  simp only [read, Cursor.next]
  cases Opcode.ofByte byte with
  | escape => exact g.readEscape_paid (p + 1) bytes
  | rasterLine =>
      rcases bytes with _ | ⟨low, _ | ⟨high, bytes⟩⟩
      · exact Reading.paid_of_none rfl _
      · exact Reading.paid_of_none rfl _
      · refine g.readRaster_paid .long _ _ ?_
        simp only [List.length_cons]
        omega
  | rasterLineShort =>
      rcases bytes with _ | ⟨ignored, _ | ⟨length, bytes⟩⟩
      · exact Reading.paid_of_none rfl _
      · exact Reading.paid_of_none rfl _
      · refine g.readRaster_paid .short _ _ ?_
        simp only [List.length_cons]
        omega
  | compression =>
      rcases bytes with _ | ⟨kind, bytes⟩
      · exact Reading.paid_of_none rfl _
      · exact Reading.paid_of_some rfl (Nat.succ_pos _)
  | null => exact Reading.paid_of_none rfl _
  | unknown byte => exact Reading.paid_of_none rfl _
  | blankLine => exact Reading.paid_of_some rfl (Nat.succ_pos _)
  | printFeed code => exact Reading.paid_of_some rfl (Nat.succ_pos _)
  | formFeed => exact Reading.paid_of_some rfl (Nat.succ_pos _)
  | carriageReturn => exact Reading.paid_of_some rfl (Nat.succ_pos _)
  | lineFeed => exact Reading.paid_of_some rfl (Nat.succ_pos _)

end Grammar

theorem Spells.costs {g : Grammar} {word : Octets} {command : Command} (h : Spells g word command) :
    command.Costs word.length := by
  have hr := Grammar.read_spells h 0 []
  rw [List.append_nil] at hr
  exact g.read_paid ⟨0, word⟩ command (by rw [hr]; rfl)

theorem Model.profile_le (model : Model) :
    model.profile.blankLineStrips ≤ 162 ∧ model.profile.lineFeedDots ≤ 24 ∧
      model.profile.formFeedDots ≤ 24 := by
  cases model <;> decide

theorem Bar.bottom_le (bar : Bar) : bar.bottom ≤ bar.y + stripHeight * bar.dots.length := by
  unfold bottom
  split
  · exact Nat.zero_le _
  · exact Nat.le_refl _

theorem bitImageBars_bottom_le {drawn : List Bar} {y bound : Nat}
    (h : ∀ bar ∈ drawn, bar.bottom ≤ bound) (hy : y + 4 * stripHeight ≤ bound) (x : Nat)
    (dots : Octets) :
    ∀ bar ∈ bitImageBars drawn x y dots, bar.bottom ≤ bound := by
  have hy : y + 32 ≤ bound := hy
  have new : ∀ bar : Bar, bar.y + stripHeight * bar.dots.length ≤ y + 32 → bar.bottom ≤ bound :=
    fun bar hb => Nat.le_trans bar.bottom_le (Nat.le_trans hb hy)
  fun_induction bitImageBars drawn x y dots with
  | case1 drawn x => exact fun bar hb => h bar (List.mem_reverse.mp hb)
  | case2 drawn x a =>
      intro bar hb
      rcases List.mem_cons.mp (List.mem_reverse.mp hb) with rfl | hb
      · exact new _ (Nat.add_le_add_left (by decide : 8 ≤ 32) y)
      · exact h bar hb
  | case3 drawn x a b =>
      intro bar hb
      rcases List.mem_cons.mp (List.mem_reverse.mp hb) with rfl | hb
      · exact new _ (Nat.add_le_add_left (by decide : 16 ≤ 32) y)
      · exact h bar hb
  | case4 drawn x a b c rest ih =>
      apply ih
      simp only [List.forall_mem_cons]
      refine ⟨new _ (Nat.le_refl _), new _ ?_, new _ ?_, h⟩
      · exact Nat.add_le_add_left (by decide : 24 ≤ 32) y
      · exact Nat.add_le_add_left (by decide : 24 ≤ 32) y

/-- Where the pen can be after it was given so many bytes. -/
structure Pen.Afforded (bytes : Nat) (pen : Pen) : Prop where
  placed : pen.Placed
  ordered : pen.Ordered
  xmax_le : 4 * pen.xmax ≤ 65535 * bytes
  ypos_le : pen.ypos ≤ 24 * bytes
  ymax_le : pen.ymax ≤ 1296 * bytes

namespace Pen.Afforded

variable {pen : Pen} {bytes n : Nat}

theorem home : Pen.home.Afforded 0 :=
  ⟨Nat.le_refl 0, Nat.le_refl 0, Nat.le_refl 0, Nat.le_refl 0, Nat.le_refl 0⟩

theorem mono (h : pen.Afforded bytes) (more : bytes ≤ n) : pen.Afforded n := by
  obtain ⟨placed, ordered, xmax, ypos, ymax⟩ := h
  exact ⟨placed, ordered, by omega, by omega, by omega⟩

theorem moveTo (h : pen.Afforded bytes) {x : Nat} (hx : 4 * x ≤ 65535 * bytes) :
    (pen.moveTo x).Afforded bytes := by
  refine ⟨pen.moveTo_placed x, Pen.moveTo_ordered h.ordered x, ?_, h.ypos_le, h.ymax_le⟩
  have hxmax := h.xmax_le
  simp only [Pen.moveTo]
  omega

end Pen.Afforded

namespace Command

variable {pen : Pen} {bytes n : Nat} {command : Command}

theorem move_afforded (o : Options) (h : pen.Afforded bytes) (costs : command.Costs n) :
    (command.move o.profile pen).Afforded (bytes + n) := by
  obtain ⟨_, hline, hform⟩ := o.model.profile_le
  have same := h.mono (Nat.le_add_right bytes n)
  have hplaced := h.placed
  have hordered := h.ordered
  have hxmax := h.xmax_le
  have hypos := h.ypos_le
  unfold Pen.Placed at hplaced
  unfold Pen.Ordered at hordered
  cases command with
  | reset => exact same
  | printFeed code => exact same
  | relativeMove dots =>
      obtain ⟨hdots, hn⟩ := costs
      exact same.moveTo (by omega)
  | setting code operands =>
      simp only [move]
      split
      · have hpage := same.moveTo (x := pen.xmax) (by omega)
        exact ⟨hpage.placed, Nat.le_max_left pen.xmax pen.xmax, hpage.xmax_le, Nat.zero_le _,
          hpage.ymax_le⟩
      · exact same
  | bitImage mode columns dots =>
      have hn : dots.length + 5 ≤ n := costs
      exact same.moveTo (by omega)
  | rasterLine form length line =>
      obtain ⟨hn, _⟩ := costs
      exact same.moveTo (by omega)
  | blankLine =>
      have hn : 0 < n := costs
      exact same.moveTo (by omega)
  | compression kind =>
      simp only [move]
      split
      · exact ⟨same.placed, same.ordered, same.xmax_le, same.ypos_le, same.ymax_le⟩
      · exact same
  | formFeed =>
      have hn : 0 < n := costs
      have hleft := same.moveTo (x := 0) (Nat.zero_le _)
      refine ⟨hleft.placed, hleft.ordered, hleft.xmax_le, ?_, hleft.ymax_le⟩
      change pen.ypos + o.model.profile.formFeedDots ≤ _
      omega
  | carriageReturn => exact same.moveTo (by omega)
  | lineFeed =>
      have hn : 0 < n := costs
      refine ⟨same.placed, same.ordered, same.xmax_le, ?_, same.ymax_le⟩
      change pen.ypos + o.model.profile.lineFeedDots ≤ _
      omega

theorem bars_bottom_le (o : Options) (h : pen.Afforded bytes) (costs : command.Costs n) :
    ∀ bar ∈ command.bars o.profile pen, bar.bottom ≤ 1296 * (bytes + n) := by
  obtain ⟨hblank, _, _⟩ := o.model.profile_le
  have hypos := h.ypos_le
  have none : ∀ bar ∈ ([] : List Bar), bar.bottom ≤ 1296 * (bytes + n) :=
    fun _ h => absurd h List.not_mem_nil
  have top : ∀ bar : Bar, bar.y + 8 * bar.dots.length ≤ 1296 * (bytes + n) →
      bar.bottom ≤ 1296 * (bytes + n) := fun bar hb => Nat.le_trans bar.bottom_le hb
  cases command with
  | bitImage mode columns dots =>
      have hn : dots.length + 5 ≤ n := costs
      have hy : pen.ypos + 4 * 8 ≤ 1296 * (bytes + n) := by omega
      exact bitImageBars_bottom_le none hy pen.xpos dots
  | rasterLine form length line =>
      obtain ⟨hn, hline⟩ := costs
      simp only [bars, rasterBars, List.forall_mem_cons]
      refine ⟨top _ ?_, top _ ?_, none⟩
      · change 0 + 8 * line.length ≤ _
        omega
      · change 0 + 8 * (List.replicate line.length rasterFiller).length ≤ _
        rw [List.length_replicate]
        omega
  | blankLine =>
      have hn : 0 < n := costs
      simp only [bars, blankBars, List.forall_mem_cons]
      refine ⟨top _ ?_, top _ ?_, none⟩
      · change 0 + 8 * (List.replicate o.model.profile.blankLineStrips 0).length ≤ _
        rw [List.length_replicate]
        omega
      · change 0 + 8 * (List.replicate 48 rasterFiller).length ≤ _
        rw [List.length_replicate]
        omega
  | _ => exact none

/-- What a command does is paid for by its bytes. -/
theorem penAfter_afforded (o : Options) (h : pen.Afforded bytes) (costs : command.Costs n) :
    (command.penAfter o pen).Afforded (bytes + n) := by
  obtain ⟨placed, ordered, hxmax, hypos, hymax⟩ := command.move_afforded o h costs
  rw [penAfter, Bar.foldl_reach]
  refine ⟨placed, ordered, hxmax, hypos, ?_⟩
  refine (Bar.foldl_max_le_iff _ _ _).mpr ⟨hymax, fun row hr => ?_⟩
  obtain ⟨bar, hb, rfl⟩ := List.mem_map.mp hr
  exact bars_bottom_le o h costs bar (Sheet.mem_of_mem_visibleBars hb)

end Command

namespace Decoder

/-- The pen was afforded by bytes that are read; those still unread come on top of them. -/
def Afforded (bytes : Nat) (d : Decoder) : Prop :=
  ∃ spent, d.pen.Afforded spent ∧ spent + d.cursor.rest.length ≤ bytes

variable (o : Options)

theorem advance_afforded {bytes : Nat} {d : Decoder} (h : d.Afforded bytes) :
    (d.advance o).1.Afforded bytes := by
  obtain ⟨spent, pen, hle⟩ := h
  have hpen := d.advance_pen o
  have leaves := Grammar.read_leaves ⟨d.pen.compression, o.acceptAnyGraphicsMode⟩ d.cursor
  change (d.reading o).Leaves d.cursor.rest.length at leaves
  cases hr : d.reading o with
  | nothing =>
      simp only [advance, hr]
      exact ⟨spent, pen, hle⟩
  | whole command after =>
      obtain ⟨word, hb, spelt⟩ := Grammar.spells_of_whole hr
      rw [hr] at hpen
      refine ⟨spent + word.length, ?_, ?_⟩
      · rw [hpen]
        exact Command.penAfter_afforded o pen spelt.costs
      · rw [hb, List.length_append] at hle
        simp only [advance, hr]
        change spent + word.length + after.rest.length ≤ bytes
        omega
  | cut fragment after =>
      have hlast : (d.advance o).1.cursor.rest = [] := by
        rw [(advance_cut o hr).2, Grammar.last_of_cut hr]
        rfl
      -- Nothing is left to read, so the command may cost all that was left.
      refine ⟨spent + d.cursor.rest.length, ?_, by rw [hlast]; exact hle⟩
      cases hc : (d.reading o).command? with
      | none =>
          rw [hc] at hpen
          rw [hpen]
          exact pen.mono (Nat.le_add_right _ _)
      | some command =>
          rw [hc] at hpen
          rw [hpen]
          exact Command.penAfter_afforded o pen (Grammar.read_paid _ d.cursor command hc)
  | terminator after =>
      rw [hr] at leaves
      simp only [advance, hr]
      exact ⟨spent, pen, Nat.le_trans (Nat.add_le_add_left leaves spent) hle⟩
  | fault fault after =>
      rw [hr] at leaves
      simp only [advance, hr]
      exact ⟨spent, pen, Nat.le_trans (Nat.add_le_add_left leaves spent) hle⟩

end Decoder

namespace Session

variable (o : Options) (sink : Sink) (capture : Octets)

theorem reached_spent (budgets : List Nat) :
    (reached o sink capture budgets).decoder.Afforded capture.length := by
  have hopened : (Decoder.opened o capture).Afforded capture.length :=
    ⟨0, .home, Nat.le_trans (Nat.le_of_eq (Nat.zero_add _)) (Cursor.take_rest_le _ _)⟩
  cases budgets with
  | nil => exact ⟨0, .home, Nat.le_of_eq (Nat.zero_add _)⟩
  | cons budget budgets =>
      rw [reached_walk o sink capture (List.cons_ne_nil budget budgets)]
      exact Decoder.walk_induction o (P := Decoder.Afforded capture.length) hopened
        (fun _ _ h => Decoder.advance_afforded o h) (allowance (budget :: budgets))

/-- Wherever a decode stands, its capture affords its pen. -/
theorem reached_afforded (budgets : List Nat) :
    (reached o sink capture budgets).decoder.pen.Afforded capture.length := by
  obtain ⟨spent, pen, hle⟩ := reached_spent o sink capture budgets
  exact pen.mono (Nat.le_trans (Nat.le_add_right _ _) hle)

/-- However a decode ends, its result gives its extent without what an image size has no room for. A
capture of up to 262148 bytes loses nothing by that. -/
theorem size_modulo_imageSizes :
    (∃ budgets, (decodeWithSink o sink capture).decoded =
      (reached o sink capture budgets).finish.1) ∧
    (∀ cancelBefore, ∃ own budgets,
      (Job.drive o cancelBefore 0 (Job.start o capture)).outcome.decoded =
        (reached o own capture budgets).finish.1) ∧
    ∀ budgets, let d := (reached o sink capture budgets).finish.1
      d.width = d.pen.xmax % imageSizes ∧ d.height = d.pen.ymax % imageSizes ∧
      (d.width = d.pen.xmax ↔ d.pen.xmax < imageSizes) ∧
      (d.height = d.pen.ymax ↔ d.pen.ymax < imageSizes) ∧
      (capture.length ≤ 262148 → d.width = d.pen.xmax ∧ d.height = d.pen.ymax) := by
  have fits : ∀ size : Nat, size % imageSizes = size ↔ size < imageSizes := by
    intro size
    have hpos : 0 < imageSizes := by decide
    exact ⟨fun h => h ▸ Nat.mod_lt size hpos, Nat.mod_eq_of_lt⟩
  refine ⟨exists_reached o sink capture, Job.exists_reached o capture, fun budgets => ?_⟩
  intro d
  refine ⟨rfl, rfl, fits _, fits _, fun hle => ?_⟩
  have pen : d.pen.Afforded capture.length := reached_afforded o sink capture budgets
  have hxmax := pen.xmax_le
  have hymax := pen.ymax_le
  have hsizes : imageSizes = 4294967296 := rfl
  exact ⟨(fits d.pen.xmax).mpr (by omega), (fits d.pen.ymax).mpr (by omega)⟩

end Session

/-- So many moves, each as long as a move can be. -/
def longestMoves (n : Nat) : Octets := (List.replicate n (Builder.relativeMove 65535)).flatten

namespace longestMoves

theorem length_eq (n : Nat) : (longestMoves n).length = 4 * n := by
  induction n with
  | zero => rfl
  | succ n ih =>
      rw [longestMoves, List.replicate_succ, List.flatten_cons, List.length_append]
      exact (congrArg (4 + ·) ih).trans (Nat.add_comm _ _)

theorem sentence (lenient : Bool) (n : Nat) :
    Sentence lenient false (List.replicate n (Builder.relativeMove 65535))
      (List.replicate n (.relativeMove 65535)) false := by
  induction n with
  | zero => exact .nil false
  | succ n ih => exact .cons (.relativeMove 255 255) ih

theorem escaped (n : Nat) : longestMoves n = [] ∨ ∃ tail, longestMoves n = escapeByte :: tail := by
  cases n with
  | zero => exact .inl rfl
  | succ n => exact .inr ⟨_, rfl⟩

theorem foldl_perform (o : Options) {n : Nat} {s : Sheet} (placed : s.pen.Placed)
    (h : s.pen.xpos + 65535 * n ≤ lastColumn) :
    ((List.replicate n (.relativeMove 65535)).foldl (Sheet.perform o) s).pen =
      s.pen.moveTo (s.pen.xpos + 65535 * n) := by
  induction n generalizing s with
  | zero => exact (Pen.moveTo_xpos_self placed).symm
  | succ n ih =>
      have hmin : min (s.pen.xpos + 65535) lastColumn = s.pen.xpos + 65535 := by omega
      have hmove : s.perform o (.relativeMove 65535) = s.moveTo (s.pen.xpos + 65535) := by
        rw [← hmin]
        rfl
      have hsum : s.pen.xpos + 65535 + 65535 * n = s.pen.xpos + 65535 * (n + 1) := by omega
      have hrest := ih (s := s.moveTo (s.pen.xpos + 65535)) (Pen.moveTo_placed _ _)
        (by change s.pen.xpos + 65535 + 65535 * n ≤ lastColumn; omega)
      rw [List.replicate_succ, List.foldl_cons, hmove, hrest]
      refine (Pen.moveTo_moveTo s.pen (Nat.le_add_right _ _)).trans ?_
      exact congrArg s.pen.moveTo hsum

/-- Moves add up, and the size of the image wraps around. -/
theorem decoded (o : Options) {n : Nat} (h : 65535 * n ≤ lastColumn) :
    (decode o (longestMoves n)).decoded.pen.xmax = 65535 * n ∧
      (decode o (longestMoves n)).decoded.width = 65535 * n % imageSizes := by
  have hxmax : (decode o (longestMoves n)).decoded.pen.xmax = 65535 * n := by
    obtain ⟨d, hr, _, _, _, hs⟩ := Session.decodeWithSink_sentence o
      (if o.trace then .keep else .discard) (sentence o.acceptAnyGraphicsMode n) (escaped n)
    change (decode o (longestMoves n)).result = _ at hr
    have hstart : (Sheet.blank o).pen.xpos + 65535 * n ≤ lastColumn :=
      Nat.le_trans (Nat.le_of_eq (Nat.zero_add _)) h
    have hpen := foldl_perform o (s := .blank o) Pen.home_placed hstart
    rw [Outcome.decoded, hr]
    calc d.pen.xmax = (Pen.home.moveTo (0 + 65535 * n)).xmax :=
          congrArg Pen.xmax ((congrArg Sheet.pen hs).trans hpen)
      _ = 65535 * n := by rw [Pen.moveTo, Nat.zero_add]; exact Nat.zero_max _
  obtain ⟨budgets, hd⟩ :=
    Session.exists_reached o (if o.trace then .keep else .discard) (longestMoves n)
  refine ⟨hxmax, ?_⟩
  rw [← hxmax, decode, hd]
  rfl

end longestMoves

/-- A capture of 262152 bytes whose extent does not fit into the size of its image. -/
theorem longestMoves_wrap : (longestMoves 65538).length = 262152 ∧
    (decode .standard (longestMoves 65538)).decoded.pen.xmax = 4295032830 ∧
    (decode .standard (longestMoves 65538)).decoded.width = 65534 := by
  refine ⟨longestMoves.length_eq 65538, ?_⟩
  exact longestMoves.decoded .standard (by decide : 65535 * 65538 ≤ lastColumn)

end LabelStream
