import LabelStream.Proofs.HighWater
import LabelStream.Proofs.Turns

/-! Whether the picture that arrived lies inside the image that is kept, which ends right of the pen's
furthest column and below the lowest strip. A command moves the pen past every column that it drew, but
a bit image that is cut inside a column does not move past that one. -/
namespace LabelStream

namespace Stroke

def data? : Stroke → Option Strip
  | strip t false => some t
  | strip _ true | place _ | feed _ | margin | top | compress => none

theorem data?_eq_some {k : Stroke} {t : Strip} : k.data? = some t ↔ k = strip t false := by
  rcases k with _ | _ | _ | _ | _ | ⟨u, _ | _⟩ <;> simp [data?]

end Stroke

def dataStrips (strokes : List Stroke) : List Strip := strokes.filterMap Stroke.data?

/-- The whole strip lies left and above of the marks. -/
def Strip.Inside (pen : Pen) (t : Strip) : Prop := t.x < pen.xmax ∧ t.bottom ≤ pen.ymax

theorem dataStrips_append (strokes more : List Stroke) :
    dataStrips (strokes ++ more) = dataStrips strokes ++ dataStrips more := List.filterMap_append

theorem mem_dataStrips {strokes : List Stroke} {t : Strip} :
    t ∈ dataStrips strokes ↔ .strip t false ∈ strokes := by
  simp only [dataStrips, List.mem_filterMap, Stroke.data?_eq_some, exists_eq_right]

theorem mem_strips_of_data {strokes : List Stroke} {t : Strip} (h : t ∈ dataStrips strokes) :
    t ∈ strips strokes :=
  List.mem_filterMap.mpr ⟨_, mem_dataStrips.mp h, rfl⟩

namespace Bar

theorem mem_dataStrips {b : Bar} {t : Strip} (h : t ∈ dataStrips b.strokes) :
    b.filler = false ∧ t.x = b.x := by
  obtain ⟨k, hk, ht⟩ := List.mem_filterMap.mp h
  obtain ⟨⟨dots, i⟩, _, rfl⟩ := List.mem_map.mp hk
  cases hf : b.filler with
  | false => rw [hf] at ht; cases ht; exact ⟨rfl, rfl⟩
  | true => rw [hf] at ht; cases ht

theorem dataStrips_ne_nil {x y : Nat} {dots : Octets} (h : dots ≠ []) :
    dataStrips (strokes ⟨x, y, dots, false⟩) ≠ [] := by
  cases dots with
  | nil => exact absurd rfl h
  | cons dot dots => exact List.cons_ne_nil _ _

end Bar

theorem mem_dataStrips_barStrokes {o : Options} {bars : List Bar} {right : Nat}
    (h : ∀ b ∈ bars, b.filler = false → b.x < right) :
    ∀ t ∈ dataStrips (barStrokes o bars), t.x < right := by
  intro t ht
  obtain ⟨k, hk, hdata⟩ := List.mem_filterMap.mp ht
  obtain ⟨b, hb, hkb⟩ := List.mem_flatMap.mp hk
  obtain ⟨hf, hx⟩ := Bar.mem_dataStrips (List.mem_filterMap.mpr ⟨k, hkb, hdata⟩)
  rw [hx]
  exact h b (Sheet.mem_of_mem_visibleBars hb) hf

/-- The strokes paint data left of column `right` only, up to strips of data that they end with at
`(x, y)` and below. -/
def Trails (strokes : List Stroke) (x y right : Nat) (rest : Octets) : Prop :=
  ∃ whole, strokes = whole ++ Bar.strokes ⟨x, y, rest, false⟩ ∧ ∀ t ∈ dataStrips whole, t.x < right

namespace Trails

variable {strokes : List Stroke} {x y right : Nat} {rest : Octets}

theorem of_left (h : ∀ t ∈ dataStrips strokes, t.x < right) (x y : Nat) :
    Trails strokes x y right [] := ⟨strokes, (List.append_nil _).symm, h⟩

theorem of_none (h : dataStrips strokes = []) (x y right : Nat) : Trails strokes x y right [] := by
  apply of_left
  rw [h]
  exact fun _ h => absurd h List.not_mem_nil

theorem of_rest (x y right : Nat) (rest : Octets) :
    Trails (Bar.strokes ⟨x, y, rest, false⟩) x y right rest :=
  ⟨[], rfl, fun _ h => absurd h List.not_mem_nil⟩

theorem prepend {earlier : List Stroke} (he : ∀ t ∈ dataStrips earlier, t.x < right)
    (h : Trails strokes x y right rest) : Trails (earlier ++ strokes) x y right rest := by
  obtain ⟨whole, rfl, hw⟩ := h
  refine ⟨earlier ++ whole, (List.append_assoc _ _ _).symm, ?_⟩
  intro t ht
  rw [dataStrips_append] at ht
  rcases List.mem_append.mp ht with ht | ht
  · exact he t ht
  · exact hw t ht

/-- Nothing but the strips at the end can keep the data from lying left of the column. -/
theorem left_iff (h : Trails strokes x y right rest) :
    (∀ t ∈ dataStrips strokes, t.x < right) ↔ rest = [] ∨ x < right := by
  obtain ⟨whole, rfl, hw⟩ := h
  rw [dataStrips_append]
  constructor
  · intro hall
    by_cases hr : rest = []
    · exact .inl hr
    · obtain ⟨t, ht⟩ := List.exists_mem_of_ne_nil _ (Bar.dataStrips_ne_nil (x := x) (y := y) hr)
      have hx := hall t (List.mem_append_right _ ht)
      rw [(Bar.mem_dataStrips ht).2] at hx
      exact .inr hx
  · intro hr t ht
    rcases List.mem_append.mp ht with ht | ht
    · exact hw t ht
    · rcases hr with rfl | hx
      · exact absurd ht List.not_mem_nil
      · rw [(Bar.mem_dataStrips ht).2]
        exact hx

end Trails

/-- A bit image ends with the strips of a column that is not filled. -/
theorem bitImageStrokes_trails (o : Options) (x y : Nat) (dots : Octets) :
    ∃ rest, rest.length = dots.length % 3 ∧ Trails (bitImageStrokes o x y dots)
      (x + dots.length / 3) y (x + dots.length / 3) rest := by
  fun_induction bitImageStrokes o x y dots with
  | case1 x => exact ⟨[], rfl, .of_none rfl _ _ _⟩
  | case2 x a =>
      have none : [a].length / 3 = 0 := Nat.div_eq_of_lt (by decide : 1 < 3)
      rw [none]
      exact ⟨[a], rfl, .of_rest x y x [a]⟩
  | case3 x a b =>
      have none : [a, b].length / 3 = 0 := Nat.div_eq_of_lt (by decide : 2 < 3)
      rw [none]
      exact ⟨[a, b], rfl, .of_rest x y x [a, b]⟩
  | case4 x a b c dots ih =>
      obtain ⟨rest, hl, ht⟩ := ih
      have hlength : (a :: b :: c :: dots).length = dots.length + 3 := rfl
      have hcolumns : x + (dots.length + 3) / 3 = x + 1 + dots.length / 3 := by omega
      rw [hlength, Nat.add_mod_right, hcolumns]
      have hplace : ∀ t ∈ dataStrips [.place (x + 1)], t.x < x + 1 + dots.length / 3 :=
        fun _ h => absurd h List.not_mem_nil
      refine ⟨rest, hl, .prepend (mem_dataStrips_barStrokes fun bar hb hf => ?_) (ht.prepend hplace)⟩
      simp only [Sheet.tripleBars, List.mem_cons, List.not_mem_nil, or_false] at hb
      rcases hb with rfl | rfl | rfl
      · exact Nat.lt_of_lt_of_le (Nat.lt_succ_self x) (Nat.le_add_right _ _)
      · cases hf
      · cases hf

namespace Command

/-- Strips of a bit image behind its last whole column. -/
def leftover : Command → Nat
  | bitImage _ _ dots => dots.length % 3
  | _ => 0

theorem leftover_lt (command : Command) : command.leftover < 3 := by
  cases command with
  | bitImage mode columns dots => exact Nat.mod_lt _ (by decide)
  | _ => exact Nat.zero_lt_succ 2

variable (o : Options) (pen : Pen) (command : Command)

theorem penAfter_place :
    (command.penAfter o pen).xpos = (command.move o.profile pen).xpos ∧
      (command.penAfter o pen).ypos = (command.move o.profile pen).ypos ∧
      (command.penAfter o pen).xmax = (command.move o.profile pen).xmax := by
  rw [penAfter, Bar.foldl_reach]
  exact ⟨rfl, rfl, rfl⟩

theorem column_left {bars : List Bar} {x : Nat} (h : ∀ b ∈ bars, b.filler = false → b.x = x) :
    ∀ t ∈ dataStrips (barStrokes o bars ++ [.place (x + 1)]), t.x < (pen.moveTo (x + 1)).xmax := by
  intro t ht
  rw [dataStrips_append] at ht
  rcases List.mem_append.mp ht with ht | ht
  · refine Nat.lt_of_lt_of_le ?_ (Nat.le_max_right pen.xmax (x + 1))
    refine mem_dataStrips_barStrokes (fun b hb hf => ?_) t ht
    rw [h b hb hf]
    exact Nat.lt_succ_self x
  · exact absurd ht List.not_mem_nil

/-- A command moves the pen past its data, up to a column of a bit image that is not filled. -/
theorem strokes_trails : ∃ rest, rest.length = command.leftover ∧
    Trails (command.strokes o pen) (command.penAfter o pen).xpos (command.penAfter o pen).ypos
      (command.penAfter o pen).xmax rest := by
  obtain ⟨hxpos, hypos, hxmax⟩ := command.penAfter_place o pen
  rw [hxpos, hypos, hxmax]
  cases command with
  | bitImage mode columns dots =>
      obtain ⟨rest, hl, whole, hs, hw⟩ := bitImageStrokes_trails o pen.xpos pen.ypos dots
      exact ⟨rest, hl, whole, hs, fun t ht => Nat.lt_of_lt_of_le (hw t ht) (Nat.le_max_right _ _)⟩
  | rasterLine form length line =>
      refine ⟨[], rfl, .of_left (column_left o pen fun b hb hf => ?_) _ _⟩
      simp only [rasterBars, List.mem_cons, List.not_mem_nil, or_false] at hb
      rcases hb with rfl | rfl
      · rfl
      · cases hf
  | blankLine =>
      refine ⟨[], rfl, .of_left (column_left o pen fun b hb hf => ?_) _ _⟩
      simp only [blankBars, List.mem_cons, List.not_mem_nil, or_false] at hb
      rcases hb with rfl | rfl
      · rfl
      · cases hf
  | setting code operands =>
      refine ⟨[], rfl, .of_none ?_ _ _ _⟩
      simp only [strokes]
      split <;> rfl
  | compression kind =>
      refine ⟨[], rfl, .of_none ?_ _ _ _⟩
      simp only [strokes]
      split <;> rfl
  | reset => exact ⟨[], rfl, .of_none rfl _ _ _⟩
  | relativeMove dots => exact ⟨[], rfl, .of_none rfl _ _ _⟩
  | printFeed code => exact ⟨[], rfl, .of_none rfl _ _ _⟩
  | formFeed => exact ⟨[], rfl, .of_none rfl _ _ _⟩
  | carriageReturn => exact ⟨[], rfl, .of_none rfl _ _ _⟩
  | lineFeed => exact ⟨[], rfl, .of_none rfl _ _ _⟩

end Command

theorem Grammar.leftover_of_whole {g : Grammar} {c after : Cursor} {command : Command}
    (h : g.read c = .whole command after) : command.leftover = 0 := by
  obtain ⟨word, _, spelt⟩ := spells_of_whole h
  cases spelt with
  | bitImage accepted count => rw [Command.leftover, count, Nat.mul_mod_right]
  | _ => rfl

namespace Decoder

variable {o : Options} {d : Decoder} {done : List Stroke}

/-- The data that was drawn lies left of the pen's furthest column, up to a column of a bit image that
the end of the capture cut. -/
def Keeps (d : Decoder) (done : List Stroke) : Prop :=
  ∃ rest, Trails done d.pen.xpos d.pen.ypos d.pen.xmax rest ∧ rest.length < 3 ∧
    (rest ≠ [] → ∃ p, d.phase = .halted (.truncated p))

theorem keeps_of_left (h : ∀ t ∈ dataStrips done, t.x < d.pen.xmax) : d.Keeps done :=
  ⟨[], .of_left h _ _, by decide, fun hne => absurd rfl hne⟩

theorem Keeps.left (h : d.Keeps done) (hf : d.isFinished = false) :
    ∀ t ∈ dataStrips done, t.x < d.pen.xmax := by
  obtain ⟨rest, trails, _, cut⟩ := h
  by_cases hr : rest = []
  · exact trails.left_iff.mpr (.inl hr)
  · obtain ⟨p, hp⟩ := cut hr
    rw [isFinished, hp] at hf
    cases hf

theorem advance_keeps (h : d.Keeps done) (hf : d.isFinished = false) (ho : d.pen.Ordered) :
    (d.advance o).1.Keeps (done ++ d.nextStrokes o) := by
  -- A decoder that goes on has cut no column yet, so only what it draws now can stick out.
  have left := h.left hf
  have hpen := d.advance_pen o
  unfold nextStrokes
  cases hc : (d.reading o).command? with
  | none =>
      rw [hc] at hpen
      change (d.advance o).1.pen = d.pen at hpen
      apply keeps_of_left
      rw [List.append_nil, hpen]
      exact left
  | some command =>
      rw [hc] at hpen
      change (d.advance o).1.pen = command.penAfter o d.pen at hpen
      obtain ⟨rest, hl, trails⟩ := command.strokes_trails o d.pen
      refine ⟨rest, ?_, ?_, fun hne => ?_⟩
      · have within := command.penAfter_within o ho
        rw [hpen]
        exact trails.prepend fun t ht => Nat.lt_of_lt_of_le (left t ht) within.xmax_le
      · rw [hl]
        exact command.leftover_lt
      · cases hr : d.reading o with
        | whole command' after =>
            rw [hr] at hc
            cases hc
            rw [Grammar.leftover_of_whole hr] at hl
            exact absurd (List.length_eq_zero_iff.mp hl) hne
        | cut fragment after => exact ⟨_, (advance_cut o hr).1⟩
        | nothing => rw [hr] at hc; cases hc
        | terminator after => rw [hr] at hc; cases hc
        | fault fault after => rw [hr] at hc; cases hc

theorem walk_keeps (h : d.Keeps done) (ho : d.pen.Ordered) (n : Nat) :
    (d.walk o n).1.Keeps (done ++ d.strokes o n) := by
  induction n generalizing d done with
  | zero =>
      rw [strokes, List.append_nil]
      cases hf : d.isFinished with
      | true => rw [walk_of_finished o hf]; exact h
      | false =>
          cases he : d.cursor.atEnd with
          | true =>
              rw [walk_of_atEnd o hf he]
              exact keeps_of_left (h.left hf)
          | false => rw [walk_zero o he]; exact h
  | succ n ih =>
      cases hf : d.isFinished with
      | true =>
          rw [walk_of_finished o hf, strokes_of_finished o hf, List.append_nil]
          exact h
      | false =>
          rw [walk_succ o hf, strokes_succ o hf, ← List.append_assoc]
          exact ih (advance_keeps h hf ho) (advance_before o ho).2

end Decoder

namespace Session

variable (o : Options) (sink : Sink) (capture : Octets)

theorem reached_keeps (budgets : List Nat) :
    (reached o sink capture budgets).decoder.Keeps (history o capture budgets) := by
  have start : ∀ d : Decoder, d.Keeps [] :=
    fun d => Decoder.keeps_of_left fun _ h => absurd h List.not_mem_nil
  cases budgets with
  | nil => exact start _
  | cons budget budgets =>
      rw [reached_walk o sink capture (List.cons_ne_nil budget budgets)]
      exact Decoder.walk_keeps (d := Decoder.opened o capture) (start _) (Nat.le_refl 0) _

/-- Cropping an image to its marks keeps all the picture data that arrived before its decode ended,
however it ended, unless the capture was cut inside a column of a bit image. The one or two strips of
that column are kept just if the pen had been further right before. -/
theorem crop_keeps_columns :
    (∃ budgets, (decodeWithSink o sink capture).decoded =
      (reached o sink capture budgets).finish.1) ∧
    (∀ cancelBefore, ∃ own budgets,
      (Job.drive o cancelBefore 0 (Job.start o capture)).outcome.decoded =
        (reached o own capture budgets).finish.1) ∧
    ∀ budgets, let last := (reached o sink capture budgets).finish.1
      let done := history o capture budgets
      (∀ t ∈ dataStrips done, t.bottom ≤ last.pen.ymax) ∧
      ∃ rest, Trails done last.pen.xpos last.pen.ypos last.pen.xmax rest ∧ rest.length < 3 ∧
        (rest ≠ [] → ∃ p, last.halt = .truncated p) ∧
        ((∀ t ∈ dataStrips done, t.Inside last.pen) ↔ rest = [] ∨ last.pen.xpos < last.pen.xmax) := by
  refine ⟨exists_reached o sink capture, Job.exists_reached o capture, fun budgets => ?_⟩
  intro last done
  have hsheet := congrArg Sheet.pen (reached_sheet o capture sink budgets)
  have below : ∀ t ∈ dataStrips done, t.bottom ≤ last.pen.ymax := by
    intro t ht
    have hy : last.pen.ymax = ((strips done).map Strip.bottom).foldl max 0 :=
      (congrArg Pen.ymax hsheet).trans (Sheet.replay_ymax done (.blank o))
    rw [hy]
    exact ((Bar.foldl_max_le_iff _ _ _).mp (Nat.le_refl _)).2 _
      (List.mem_map_of_mem (mem_strips_of_data ht))
  obtain ⟨rest, trails, hlt, cut⟩ := reached_keeps o sink capture budgets
  refine ⟨below, rest, trails, hlt, fun hne => ?_, ?_⟩
  · obtain ⟨p, hp⟩ := cut hne
    have hhalt : last.halt = (reached o sink capture budgets).decoder.ending := rfl
    exact ⟨p, by rw [hhalt, Decoder.ending, hp]⟩
  · refine Iff.trans ⟨fun h t ht => (h t ht).1, fun h t ht => ⟨h t ht, below t ht⟩⟩ trails.left_iff

end Session

/-- A reset, and a bit image of one column of which one strip arrived. -/
def cutColumn : Octets := [0x1B, 0x40, 0x1B, 0x2A, 0x27, 0x01, 0x00, 0x80]

theorem cutColumn_outside_crop :
    let last := (decode .standard cutColumn).decoded
    dataStrips (Session.history .standard cutColumn [2]) = [⟨0, 0, 0x80⟩] ∧
      last.halt = .truncated 2 ∧ last.surface.pixel 0 0 = true ∧
      last.pen.xmax = 0 ∧ last.width = 0 ∧ last.blackPixels = 0 := by
  have hf : ((Decoder.opened .standard cutColumn).walk .standard 2).1.isFinished = true := rfl
  intro last
  have hlast : last = ((Decoder.opened .standard cutColumn).walk .standard 2).1.decoded none :=
    decode_decoded (decode_result .standard cutColumn hf)
  rw [hlast]
  decide

end LabelStream
