import LabelStream.Command.Builder
import LabelStream.Decoder

/-! Drawing strip by strip. A command draws bars and moves the pen; here the bars come apart into
strips, each of which is painted and noted before the next. -/
namespace LabelStream

open Builder (Triple)

namespace Pen

theorem reach_succ (pen : Pen) (y n : Nat) :
    pen.reach y (n + 1) =
      reach (y + stripHeight) n { pen with ymax := max pen.ymax (y + stripHeight) } := by
  cases n with
  | zero => rfl
  | succ n =>
      simp only [reach, Nat.succ_ne_zero, if_false, mk.injEq, true_and, and_true]
      rw [Nat.max_assoc]
      congr 1
      simp only [stripHeight]
      omega

theorem reach_moveTo (pen : Pen) (x y n : Nat) :
    (pen.moveTo x).reach y n = (pen.reach y n).moveTo x := by
  unfold reach
  split <;> rfl

end Pen

structure Sheet where
  pen : Pen
  surface : Surface

namespace Sheet

def strip (x y : Nat) (dots : UInt8) (s : Sheet) : Sheet :=
  ⟨{ s.pen with ymax := max s.pen.ymax (y + stripHeight) }, s.surface.paint x y dots⟩

/-- Paints strip number `i` of a column `i` strips below row `y`. -/
def column (x y : Nat) (dots : Octets) (s : Sheet) : Sheet :=
  dots.zipIdx.foldl (fun s (d, i) => s.strip x (y + stripHeight * i) d) s

/-- Paints a column of filler, if filler is drawn at all. -/
def filler (o : Options) (x y : Nat) (dots : Octets) (s : Sheet) : Sheet :=
  if o.drawFiller then s.column x y dots else s

def moveTo (x : Nat) (s : Sheet) : Sheet := { s with pen := s.pen.moveTo x }

/-- Strips below one another are the bar that they make up. The strip count starts at `k`, so that
the induction can go on to the next strip. -/
theorem foldl_strips (x y k : Nat) (dots : Octets) (s : Sheet) :
    (dots.zipIdx k).foldl (fun s (d, i) => s.strip x (y + stripHeight * i) d) s =
      ⟨s.pen.reach (y + stripHeight * k) dots.length,
        s.surface.paintDown x (y + stripHeight * k) dots⟩ := by
  induction dots generalizing k s with
  | nil => rfl
  | cons d dots ih =>
      rw [List.zipIdx_cons, List.foldl_cons, ih, List.length_cons, Pen.reach_succ, Nat.mul_succ,
        ← Nat.add_assoc]
      rfl

theorem column_eq (x y : Nat) (dots : Octets) (s : Sheet) :
    s.column x y dots = ⟨s.pen.reach y dots.length, s.surface.paintDown x y dots⟩ :=
  foldl_strips x y 0 dots s

/-- Draws a bar, unless it is filler that is not wanted. -/
def bar (o : Options) (b : Bar) (s : Sheet) : Sheet :=
  if b.filler then s.filler o b.x b.y b.dots else s.column b.x b.y b.dots

def perform (o : Options) (s : Sheet) (command : Command) : Sheet :=
  (command.bars o.profile s.pen).foldl (fun s b => s.bar o b)
    ⟨command.move o.profile s.pen, s.surface⟩

theorem bar_eq (o : Options) (b : Bar) (s : Sheet) :
    s.bar o b = if b.filler && !o.drawFiller then s else ⟨b.reach s.pen, b.paint s.surface⟩ := by
  unfold bar filler
  cases b.filler with
  | false => exact column_eq b.x b.y b.dots s
  | true =>
      cases o.drawFiller with
      | false => rfl
      | true => exact column_eq b.x b.y b.dots s

theorem visibleBars_nil (o : Options) : Decoder.visibleBars o [] = [] := by
  unfold Decoder.visibleBars
  split <;> rfl

theorem visibleBars_cons (o : Options) (b : Bar) (bars : List Bar) :
    Decoder.visibleBars o (b :: bars) =
      if b.filler && !o.drawFiller then Decoder.visibleBars o bars
      else b :: Decoder.visibleBars o bars := by
  unfold Decoder.visibleBars
  cases o.drawFiller with
  | true => rw [Bool.not_true, Bool.and_false]; rfl
  | false => cases hb : b.filler <;> simp [hb]

theorem mem_of_mem_visibleBars {o : Options} {b : Bar} {bars : List Bar}
    (h : b ∈ Decoder.visibleBars o bars) : b ∈ bars := by
  unfold Decoder.visibleBars at h
  split at h
  · exact h
  · exact (List.mem_filter.mp h).1

theorem foldl_bar (o : Options) (bars : List Bar) (s : Sheet) :
    bars.foldl (fun s b => s.bar o b) s =
      ⟨(Decoder.visibleBars o bars).foldl Bar.reach s.pen,
        (Decoder.visibleBars o bars).foldl Bar.paint s.surface⟩ := by
  induction bars generalizing s with
  | nil => rw [visibleBars_nil]; rfl
  | cons b bars ih =>
      rw [List.foldl_cons, ih, bar_eq, visibleBars_cons]
      split <;> rfl

/-- Bars move nothing of the pen but the mark of how far down they reach. -/
theorem foldl_bar_pen (o : Options) (bars : List Bar) (s : Sheet) :
    ∃ ymax, (bars.foldl (fun s b => s.bar o b) s).pen = { s.pen with ymax := ymax } := by
  induction bars generalizing s with
  | nil => exact ⟨s.pen.ymax, rfl⟩
  | cons b bars ih =>
      obtain ⟨ymax, h⟩ := ih (s.bar o b)
      refine ⟨ymax, h.trans ?_⟩
      rw [bar_eq]
      split
      · rfl
      · dsimp only [Bar.reach, Pen.reach]
        split <;> rfl

end Sheet

/-- Whether raster lines are coded behind a command, if they were `before` it. -/
def Command.modeAfter (before : Bool) : Command → Bool
  | .compression kind => before || kind == runLengthKind
  | _ => before

namespace Sheet

theorem move_compression (p : Profile) (pen : Pen) (command : Command) :
    (command.move p pen).compression = command.modeAfter pen.compression := by
  cases command with
  | setting code operands =>
      simp only [Command.move]
      split <;> rfl
  | compression kind =>
      simp only [Command.move, Command.modeAfter]
      split
      next h => simp only [h, Pen.compress, beq_self_eq_true, Bool.or_true]
      next h => rw [beq_eq_false_iff_ne.mpr h, Bool.or_false]
  | _ => rfl

theorem perform_compression (o : Options) (command : Command) (s : Sheet) :
    (s.perform o command).pen.compression = command.modeAfter s.pen.compression := by
  obtain ⟨ymax, h⟩ := foldl_bar_pen o (command.bars o.profile s.pen)
    ⟨command.move o.profile s.pen, s.surface⟩
  rw [perform, h]
  exact move_compression o.profile s.pen command

end Sheet

namespace Pen

/-- The pen is nowhere further right than it is said to have been. -/
def Placed (pen : Pen) : Prop := pen.xpos ≤ pen.xmax

theorem home_placed : home.Placed := Nat.le_refl 0

theorem moveTo_placed (pen : Pen) (x : Nat) : (pen.moveTo x).Placed := Nat.le_max_right _ _

theorem moveTo_xpos_self {pen : Pen} (h : pen.Placed) : pen.moveTo pen.xpos = pen := by
  rcases pen with ⟨xpos, ypos, xmin, xmax, ymax, compression⟩
  have h : xpos ≤ xmax := h
  simp only [moveTo, Nat.max_eq_left h]

theorem moveTo_moveTo (pen : Pen) {x y : Nat} (h : x ≤ y) : (pen.moveTo x).moveTo y = pen.moveTo y := by
  simp only [moveTo, Nat.max_assoc, Nat.max_eq_right h]

end Pen

namespace Sheet

theorem bar_moveTo (o : Options) (b : Bar) (x : Nat) (s : Sheet) :
    (s.moveTo x).bar o b = (s.bar o b).moveTo x := by
  rw [bar_eq, bar_eq]
  split
  · rfl
  · exact congrArg (Sheet.mk · _) (s.pen.reach_moveTo x b.y b.dots.length)

theorem foldl_bar_moveTo (o : Options) (bars : List Bar) (x : Nat) (s : Sheet) :
    bars.foldl (fun s b => s.bar o b) (s.moveTo x) =
      (bars.foldl (fun s b => s.bar o b) s).moveTo x := by
  induction bars generalizing s with
  | nil => rfl
  | cons b bars ih => rw [List.foldl_cons, List.foldl_cons, bar_moveTo, ih]

theorem move_placed {p : Profile} {pen : Pen} (h : pen.Placed) (command : Command) :
    (command.move p pen).Placed := by
  cases command with
  | setting code operands =>
      simp only [Command.move]
      split
      · exact Nat.le_max_right _ _
      · exact h
  | compression kind =>
      simp only [Command.move]
      split <;> exact h
  | reset => exact h
  | printFeed code => exact h
  | lineFeed => exact h
  | _ => exact Pen.moveTo_placed _ _

theorem perform_placed {o : Options} {s : Sheet} (h : s.pen.Placed) (command : Command) :
    (s.perform o command).pen.Placed := by
  obtain ⟨ymax, hp⟩ := foldl_bar_pen o (command.bars o.profile s.pen)
    ⟨command.move o.profile s.pen, s.surface⟩
  rw [perform, hp]
  exact move_placed h command

/-- A raster line: its strips from the top row down, filler beside each, one column to the right. -/
def drawLine (o : Options) (line : Octets) (s : Sheet) : Sheet :=
  let x := s.pen.xpos
  ((s.column x 0 line).filler o (x + 1) 0 (List.replicate line.length rasterFiller)).moveTo (x + 1)

/-- A blank line: as many white strips as the model clears, filler beside the first 48. -/
def drawBlank (o : Options) (s : Sheet) : Sheet :=
  let x := s.pen.xpos
  ((s.column x 0 (List.replicate o.profile.blankLineStrips 0)).filler o (x + 1) 0
    (List.replicate blankLineFillerStrips rasterFiller)).moveTo (x + 1)

/-- One column of a bit image: three strips from the current row down, filler beside them and below. -/
def drawTriple (o : Options) (s : Sheet) (t : Triple) : Sheet :=
  let x := s.pen.xpos
  let y := s.pen.ypos
  (((s.column x y t.octets).filler o (x + 1) y (List.replicate 3 bitImageFiller)).filler o x
    (y + 3 * stripHeight) [bitImageFiller]).moveTo (x + 1)

theorem perform_rasterLine (o : Options) (form : RasterForm) (length : Nat) (line : Octets) (s : Sheet) :
    s.perform o (.rasterLine form length line) = s.drawLine o line :=
  foldl_bar_moveTo o (rasterBars s.pen.xpos line) (s.pen.xpos + 1) s

theorem perform_blankLine (o : Options) (s : Sheet) : s.perform o .blankLine = s.drawBlank o :=
  foldl_bar_moveTo o (blankBars o.profile s.pen.xpos) (s.pen.xpos + 1) s

def tripleBars (x y : Nat) (t : Triple) : List Bar :=
  [⟨x, y, t.octets, false⟩, ⟨x + 1, y, List.replicate 3 bitImageFiller, true⟩,
    ⟨x, y + 3 * stripHeight, [bitImageFiller], true⟩]

theorem bitImageBars_append (earlier drawn : List Bar) (x y : Nat) (dots : Octets) :
    bitImageBars (drawn ++ earlier) x y dots = earlier.reverse ++ bitImageBars drawn x y dots := by
  fun_induction bitImageBars drawn x y dots with
  | case1 drawn x => exact List.reverse_append
  | case2 drawn x a => exact @List.reverse_append _ (_ :: drawn) _
  | case3 drawn x a b => exact @List.reverse_append _ (_ :: drawn) _
  | case4 drawn x a b c rest ih => exact ih

theorem bitImageBars_triple (x y : Nat) (t : Triple) (dots : Octets) :
    bitImageBars [] x y (t.octets ++ dots) = tripleBars x y t ++ bitImageBars [] (x + 1) y dots :=
  bitImageBars_append (tripleBars x y t).reverse [] (x + 1) y dots

theorem moveTo_moveTo (s : Sheet) {x y : Nat} (h : x ≤ y) : (s.moveTo x).moveTo y = s.moveTo y :=
  congrArg (Sheet.mk · s.surface) (s.pen.moveTo_moveTo h)

/-- The pen moves once for all columns, but it might as well move behind each. -/
theorem foldl_drawTriple (o : Options) (columns : List Triple) {s : Sheet} (h : s.pen.Placed) :
    ((bitImageBars [] s.pen.xpos s.pen.ypos (columns.flatMap Triple.octets)).foldl
        (fun s b => s.bar o b) s).moveTo (s.pen.xpos + columns.length) =
      columns.foldl (fun s t => s.drawTriple o t) s := by
  induction columns generalizing s with
  | nil => exact congrArg (Sheet.mk · s.surface) (Pen.moveTo_xpos_self h)
  | cons t columns ih =>
      -- The rest is drawn from `next`, whose pen is moved first in one reading and last in the other.
      obtain ⟨x, hx⟩ : ∃ x, x = s.pen.xpos := ⟨_, rfl⟩
      obtain ⟨y, hy⟩ : ∃ y, y = s.pen.ypos := ⟨_, rfl⟩
      obtain ⟨next, hnext⟩ : ∃ next, next = (tripleBars x y t).foldl (fun s b => s.bar o b) s :=
        ⟨_, rfl⟩
      have hdraw : s.drawTriple o t = next.moveTo (x + 1) := by
        rw [hnext, hx, hy]
        rfl
      have hynext : next.pen.ypos = y := by
        obtain ⟨ymax, hp⟩ := foldl_bar_pen o (tripleBars x y t) s
        rw [hnext, hp, hy]
      have hcolumns := ih (s := next.moveTo (x + 1)) (Pen.moveTo_placed _ _)
      change moveTo (x + 1 + columns.length)
        ((bitImageBars [] (x + 1) next.pen.ypos _).foldl _ (next.moveTo (x + 1))) = _ at hcolumns
      rw [hynext, foldl_bar_moveTo, moveTo_moveTo _ (Nat.le_add_right _ _)] at hcolumns
      rw [← hx, ← hy, List.flatMap_cons, bitImageBars_triple, List.foldl_append, ← hnext,
        List.length_cons, List.foldl_cons, hdraw, ← hcolumns, Nat.add_assoc, Nat.add_comm 1]

theorem octets_length (columns : List Triple) :
    (columns.flatMap Triple.octets).length = 3 * columns.length := by
  induction columns with
  | nil => rfl
  | cons t columns ih =>
      rw [List.flatMap_cons, List.length_append, ih, List.length_cons, Nat.mul_succ, Nat.add_comm]
      rfl

theorem perform_bitImage (o : Options) (mode : UInt8) (n : Nat) (columns : List Triple) {s : Sheet}
    (h : s.pen.Placed) :
    s.perform o (.bitImage mode n (columns.flatMap Triple.octets)) =
      columns.foldl (fun s t => s.drawTriple o t) s := by
  have hl : (columns.flatMap Triple.octets).length / 3 = columns.length := by
    rw [octets_length, Nat.mul_div_cancel_left _ (by decide)]
  rw [← foldl_drawTriple o columns h, ← foldl_bar_moveTo, ← hl]
  rfl

end Sheet
end LabelStream
