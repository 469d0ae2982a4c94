import LabelStream.Proofs.Telling

/-! What only grows while a decode goes on: the commands begun, the left margin of the page, how far
right the pen has been and how far down a strip has reached, and the coding of raster lines. -/
namespace LabelStream

namespace Pen

/-- No page begins further right than the pen has been. -/
def Ordered (pen : Pen) : Prop := pen.xmin ≤ pen.xmax

/-- Nothing that only grows is further on in `pen` than in `later`. -/
structure Within (pen later : Pen) : Prop where
  xmin_le : pen.xmin ≤ later.xmin
  xmax_le : pen.xmax ≤ later.xmax
  ymax_le : pen.ymax ≤ later.ymax
  compression : pen.compression = true → later.compression = true

theorem Within.refl (pen : Pen) : pen.Within pen :=
  ⟨Nat.le_refl _, Nat.le_refl _, Nat.le_refl _, id⟩

theorem Within.trans {a b c : Pen} (h : a.Within b) (h' : b.Within c) : a.Within c :=
  ⟨Nat.le_trans h.xmin_le h'.xmin_le, Nat.le_trans h.xmax_le h'.xmax_le,
    Nat.le_trans h.ymax_le h'.ymax_le, fun hc => h'.compression (h.compression hc)⟩

theorem home_within (pen : Pen) : home.Within pen :=
  ⟨Nat.zero_le _, Nat.zero_le _, Nat.zero_le _, fun h => nomatch h⟩

theorem moveTo_within (pen : Pen) (x : Nat) : pen.Within (pen.moveTo x) :=
  ⟨Nat.le_refl _, Nat.le_max_left _ _, Nat.le_refl _, id⟩

theorem startPage_within {pen : Pen} (h : pen.Ordered) : pen.Within pen.startPage :=
  ⟨h, Nat.le_max_left _ _, Nat.le_refl _, id⟩

theorem moveTo_ordered {pen : Pen} (h : pen.Ordered) (x : Nat) : (pen.moveTo x).Ordered :=
  Nat.le_trans h (Nat.le_max_left _ _)

end Pen

namespace Command

theorem move_within (p : Profile) {pen : Pen} (h : pen.Ordered) (command : Command) :
    pen.Within (command.move p pen) := by
  cases command with
  | setting code operands =>
      simp only [move]
      split
      · exact Pen.startPage_within h
      · exact .refl pen
  | compression kind =>
      simp only [move]
      split
      · exact ⟨Nat.le_refl _, Nat.le_refl _, Nat.le_refl _, fun _ => rfl⟩
      · exact .refl pen
  | reset => exact .refl pen
  | printFeed code => exact .refl pen
  | lineFeed => exact ⟨Nat.le_refl _, Nat.le_refl _, Nat.le_refl _, id⟩
  | relativeMove dots => exact pen.moveTo_within _
  | bitImage mode columns dots => exact pen.moveTo_within _
  | rasterLine form length line => exact pen.moveTo_within _
  | blankLine => exact pen.moveTo_within _
  | formFeed => exact ⟨Nat.le_refl _, Nat.le_max_left _ _, Nat.le_refl _, id⟩
  | carriageReturn => exact pen.moveTo_within _

theorem move_ordered (p : Profile) {pen : Pen} (h : pen.Ordered) (command : Command) :
    (command.move p pen).Ordered := by
  cases command with
  | setting code operands =>
      simp only [move]
      split
      · exact Nat.le_max_left pen.xmax pen.xmax
      · exact h
  | compression kind =>
      simp only [move]
      split <;> exact h
  | reset => exact h
  | printFeed code => exact h
  | lineFeed => exact h
  | relativeMove dots => exact Pen.moveTo_ordered h _
  | bitImage mode columns dots => exact Pen.moveTo_ordered h _
  | rasterLine form length line => exact Pen.moveTo_ordered h _
  | blankLine => exact Pen.moveTo_ordered h _
  | formFeed => exact Pen.moveTo_ordered h 0
  | carriageReturn => exact Pen.moveTo_ordered h _

end Command

namespace Bar

def bottom (bar : Bar) : Nat :=
  if bar.dots.length = 0 then 0 else bar.y + stripHeight * bar.dots.length

theorem reach_eq (pen : Pen) (bar : Bar) :
    bar.reach pen = { pen with ymax := max pen.ymax bar.bottom } := by
  unfold Bar.reach Pen.reach bottom
  split
  · rw [Nat.max_eq_left (Nat.zero_le _)]
  · rfl

/-- Bars change nothing of the pen but how far down they reach. -/
theorem foldl_reach (bars : List Bar) (pen : Pen) :
    bars.foldl reach pen = { pen with ymax := (bars.map bottom).foldl max pen.ymax } := by
  induction bars generalizing pen with
  | nil => rfl
  | cons bar bars ih => rw [List.foldl_cons, ih, reach_eq, List.map_cons, List.foldl_cons]

theorem foldl_max_le_iff (rows : List Nat) (start bound : Nat) :
    rows.foldl max start ≤ bound ↔ start ≤ bound ∧ ∀ row ∈ rows, row ≤ bound := by
  induction rows generalizing start with
  | nil => simp only [List.foldl_nil, List.not_mem_nil, false_implies, implies_true, and_true]
  | cons row rows ih => rw [List.foldl_cons, ih, Nat.max_le, List.forall_mem_cons, and_assoc]

theorem foldl_reach_within (bars : List Bar) (pen : Pen) : pen.Within (bars.foldl reach pen) := by
  rw [foldl_reach]
  exact ⟨Nat.le_refl _, Nat.le_refl _, ((foldl_max_le_iff _ _ _).mp (Nat.le_refl _)).1, id⟩

end Bar

def Command.penAfter (o : Options) (pen : Pen) (command : Command) : Pen :=
  (Decoder.visibleBars o (command.bars o.profile pen)).foldl Bar.reach (command.move o.profile pen)

theorem Command.penAfter_within (o : Options) {pen : Pen} (h : pen.Ordered) (command : Command) :
    pen.Within (command.penAfter o pen) :=
  (command.move_within o.profile h).trans (Bar.foldl_reach_within _ _)

theorem Command.penAfter_ordered (o : Options) {pen : Pen} (h : pen.Ordered) (command : Command) :
    (command.penAfter o pen).Ordered := by
  rw [penAfter, Bar.foldl_reach]
  exact command.move_ordered o.profile h

/-- The command that is performed on a reading, with all its data or with what arrived of it. -/
def Reading.command? : Reading → Option Command
  | whole command _ | cut (.body command) _ => some command
  | nothing | cut .header _ | cut .graphics _ | terminator _ | fault _ _ => none

namespace Decoder

variable (o : Options)

theorem advance_pen (d : Decoder) : (d.advance o).1.pen =
    match (d.reading o).command? with
    | none => d.pen
    | some command => command.penAfter o d.pen := by
  unfold advance
  split
  next hr => rw [hr]; rfl
  next hr => rw [hr]; rfl
  next fragment after hr => rw [hr]; cases fragment <;> rfl
  next hr => rw [hr]; rfl
  next hr => rw [hr]; rfl

theorem advance_cut {d : Decoder} {fragment : Fragment} {after : Cursor}
    (h : d.reading o = .cut fragment after) :
    (d.advance o).1.phase = .halted (.truncated d.cursor.position) ∧
      (d.advance o).1.cursor = after := by
  simp only [advance, h]
  cases fragment <;> exact ⟨rfl, rfl⟩

/-- A decode that stands at `d` may stand at `later` some time. -/
structure Before (d later : Decoder) : Prop where
  opcodes_le : d.opcodes ≤ later.opcodes
  pen_within : d.pen.Within later.pen

theorem Before.trans {a b c : Decoder} (h : a.Before b) (h' : b.Before c) : a.Before c :=
  ⟨Nat.le_trans h.opcodes_le h'.opcodes_le, h.pen_within.trans h'.pen_within⟩

theorem advance_before {d : Decoder} (h : d.pen.Ordered) :
    d.Before (d.advance o).1 ∧ (d.advance o).1.pen.Ordered := by
  refine ⟨⟨?opcodes, ?within⟩, ?ordered⟩
  case opcodes =>
    cases he : d.cursor.atEnd with
    | true => exact Nat.le_of_eq (by rw [advance_atEnd o he])
    | false => rw [advance_opcodes o he]; exact Nat.le_succ _
  case within =>
    rw [advance_pen]
    split
    · exact .refl _
    · exact Command.penAfter_within o h _
  case ordered =>
    rw [advance_pen]
    split
    · exact h
    · exact Command.penAfter_ordered o h _

theorem walk_before {d : Decoder} (h : d.pen.Ordered) (n : Nat) :
    d.Before (d.walk o n).1 ∧ (d.walk o n).1.pen.Ordered := by
  refine walk_induction o (P := fun later => d.Before later ∧ later.pen.Ordered)
    ⟨⟨Nat.le_refl _, .refl _⟩, h⟩ ?_ n
  rintro later _ ⟨hb, ho⟩
  obtain ⟨ha, ho'⟩ := advance_before o ho
  exact ⟨hb.trans ha, ho'⟩

end Decoder
end LabelStream
