import LabelStream.Proofs.Growth
import LabelStream.Proofs.Drawing
import LabelStream.Proofs.Painting

/-! What a decode does to the pen and the picture, one assignment and one strip at a time. A command
draws whole bars and moves once; its strokes say the same in single steps, the pen moved behind every
column. Drawing the strokes of a decode again gives its pen and its picture. -/
namespace LabelStream

inductive Stroke where
  /-- The pen is put over a column. -/
  | place (x : Nat)
  | feed (dots : Nat)
  /-- The left margin moves to the right of everything so far. -/
  | margin
  | top
  | compress
  | strip (t : Strip) (filler : Bool)
  deriving Repr, DecidableEq

namespace Stroke

def draw (s : Sheet) : Stroke → Sheet
  | place x => s.moveTo x
  | feed dots => { s with pen := s.pen.lineFeed dots }
  | margin => { s with pen := { s.pen with xmin := s.pen.xmax } }
  | top => { s with pen := { s.pen with ypos := 0 } }
  | compress => { s with pen := s.pen.compress }
  | strip t _ => s.strip t.x t.y t.dots

/-- The column over which the stroke puts the pen. -/
def place? : Stroke → Option Nat
  | place x => some x
  | feed _ | margin | top | compress | strip .. => none

def strip? : Stroke → Option Strip
  | strip t _ => some t
  | place _ | feed _ | margin | top | compress => none

end Stroke

def places (strokes : List Stroke) : List Nat := strokes.filterMap Stroke.place?

def strips (strokes : List Stroke) : List Strip := strokes.filterMap Stroke.strip?

theorem strips_append (strokes more : List Stroke) :
    strips (strokes ++ more) = strips strokes ++ strips more := List.filterMap_append

namespace Sheet

def replay (strokes : List Stroke) (s : Sheet) : Sheet := strokes.foldl Stroke.draw s

theorem replay_append (done more : List Stroke) (s : Sheet) :
    s.replay (done ++ more) = (s.replay done).replay more := List.foldl_append

end Sheet

namespace Bar

def strokes (b : Bar) : List Stroke :=
  b.dots.zipIdx.map fun (dots, i) => .strip ⟨b.x, b.y + stripHeight * i, dots⟩ b.filler

theorem replay_strokes (b : Bar) (s : Sheet) : s.replay b.strokes = s.column b.x b.y b.dots :=
  List.foldl_map

end Bar

/-- The strips of bars, without those of filler that is not wanted. -/
def barStrokes (o : Options) (bars : List Bar) : List Stroke :=
  (Decoder.visibleBars o bars).flatMap Bar.strokes

theorem barStrokes_nil (o : Options) : barStrokes o [] = [] := by
  rw [barStrokes, Sheet.visibleBars_nil]
  rfl

theorem replay_barStrokes (o : Options) (bars : List Bar) (s : Sheet) :
    s.replay (barStrokes o bars) = bars.foldl (fun s b => s.bar o b) s := by
  induction bars generalizing s with
  | nil => rw [barStrokes_nil]; rfl
  | cons b bars ih =>
      rw [barStrokes, Sheet.visibleBars_cons, List.foldl_cons, ← ih, Sheet.bar_eq]
      split
      · rfl
      · rw [List.flatMap_cons, Sheet.replay_append, b.replay_strokes, Sheet.column_eq]
        rfl

/-- The strokes of a bit image from column `x` on. A column that is not filled leaves the pen where it
is. -/
def bitImageStrokes (o : Options) (x y : Nat) : Octets → List Stroke
  | [] => []
  | [a] => Bar.strokes ⟨x, y, [a], false⟩
  | [a, b] => Bar.strokes ⟨x, y, [a, b], false⟩
  | a :: b :: c :: rest =>
    barStrokes o (Sheet.tripleBars x y ⟨a, b, c⟩) ++ .place (x + 1) :: bitImageStrokes o (x + 1) y rest

def Command.strokes (o : Options) (pen : Pen) : Command → List Stroke
  | relativeMove dots => [.place (min (pen.xpos + dots) lastColumn)]
  | setting code _ =>
    if Setting.ofByte code = .continuousPage then [.margin, .place pen.xmax, .top] else []
  | bitImage _ _ dots => bitImageStrokes o pen.xpos pen.ypos dots
  | rasterLine _ _ line => barStrokes o (rasterBars pen.xpos line) ++ [.place (pen.xpos + 1)]
  | blankLine => barStrokes o (blankBars o.profile pen.xpos) ++ [.place (pen.xpos + 1)]
  | compression kind => if kind = runLengthKind then [.compress] else []
  | formFeed => [.place 0, .feed o.profile.formFeedDots]
  | carriageReturn => [.place pen.xmin]
  | lineFeed => [.feed o.profile.lineFeedDots]
  | reset | printFeed _ => []

namespace Sheet

variable {o : Options} {s : Sheet}

theorem foldl_bar_place (o : Options) (bars : List Bar) (s : Sheet) :
    (bars.foldl (fun s b => s.bar o b) s).pen.xpos = s.pen.xpos ∧
      (bars.foldl (fun s b => s.bar o b) s).pen.ypos = s.pen.ypos ∧
      (bars.foldl (fun s b => s.bar o b) s).pen.xmax = s.pen.xmax := by
  obtain ⟨ymax, h⟩ := foldl_bar_pen o bars s
  rw [h]
  exact ⟨rfl, rfl, rfl⟩

/-- Bars of a column that is not filled leave the pen where it is. -/
theorem foldl_bar_stay (bars : List Bar) (h : s.pen.Placed) :
    bars.foldl (fun s b => s.bar o b) s =
      (bars.foldl (fun s b => s.bar o b) s).moveTo s.pen.xpos := by
  obtain ⟨hx, _, hm⟩ := foldl_bar_place o bars s
  have hp : (bars.foldl (fun s b => s.bar o b) s).pen.Placed := by
    rw [Pen.Placed, hx, hm]
    exact h
  have hstay := Pen.moveTo_xpos_self hp
  rw [hx] at hstay
  rw [moveTo, hstay]

theorem replay_triple (x y : Nat) (a b c : UInt8) (rest : Octets) (s : Sheet) :
    s.replay (bitImageStrokes o x y (a :: b :: c :: rest)) =
      (((tripleBars x y ⟨a, b, c⟩).foldl (fun s b => s.bar o b) s).moveTo (x + 1)).replay
        (bitImageStrokes o (x + 1) y rest) := by
  rw [bitImageStrokes, replay_append, replay_barStrokes]
  rfl

theorem replay_bitImageStrokes {x y : Nat} (h : s.pen.Placed) (hx : s.pen.xpos = x)
    (dots : Octets) : s.replay (bitImageStrokes o x y dots) =
      ((bitImageBars [] x y dots).foldl (fun s b => s.bar o b) s).moveTo (x + dots.length / 3) := by
  fun_induction bitImageStrokes o x y dots generalizing s with
  | case1 x =>
      subst hx
      exact foldl_bar_stay [] h
  | case2 x a =>
      subst hx
      have none : [a].length / 3 = 0 := Nat.div_eq_of_lt (by decide : 1 < 3)
      rw [Bar.replay_strokes, none]
      exact foldl_bar_stay (o := o) [⟨s.pen.xpos, y, [a], false⟩] h
  | case3 x a b =>
      subst hx
      have none : [a, b].length / 3 = 0 := Nat.div_eq_of_lt (by decide : 2 < 3)
      rw [Bar.replay_strokes, none]
      exact foldl_bar_stay (o := o) [⟨s.pen.xpos, y, [a, b], false⟩] h
  | case4 x a b c rest ih =>
      -- The rest is drawn from `next`, whose pen is moved first in one reading and last in the other.
      obtain ⟨next, hnext⟩ :
          ∃ next, next = (tripleBars x y ⟨a, b, c⟩).foldl (fun s b => s.bar o b) s := ⟨_, rfl⟩
      have hrest := ih (s := next.moveTo (x + 1)) (Pen.moveTo_placed _ _) rfl
      have hcolumns : (rest.length + 3) / 3 = rest.length / 3 + 1 := by omega
      calc s.replay (bitImageStrokes o x y (a :: b :: c :: rest))
          = (next.moveTo (x + 1)).replay (bitImageStrokes o (x + 1) y rest) := by
            rw [replay_triple, ← hnext]
        _ = ((bitImageBars [] (x + 1) y rest).foldl (fun s b => s.bar o b) next).moveTo
              (x + (rest.length + 3) / 3) := by
            rw [hrest, foldl_bar_moveTo, moveTo_moveTo _ (Nat.le_add_right _ _), hcolumns,
              Nat.add_assoc, Nat.add_comm 1]
        _ = ((bitImageBars [] x y (a :: b :: c :: rest)).foldl (fun s b => s.bar o b) s).moveTo
              (x + (rest.length + 3) / 3) := by
            have hbars := bitImageBars_triple x y ⟨a, b, c⟩ rest
            change bitImageBars [] x y (a :: b :: c :: rest) = _ at hbars
            rw [hbars, List.foldl_append, ← hnext]

/-- A command does what its strokes do one by one. -/
theorem replay_strokes (h : s.pen.Placed) (command : Command) :
    s.replay (command.strokes o s.pen) = s.perform o command := by
  cases command with
  | reset => rfl
  | relativeMove dots => rfl
  | setting code operands =>
      simp only [Command.strokes, perform, Command.bars, Command.move]
      split <;> rfl
  | bitImage mode columns dots =>
      refine (replay_bitImageStrokes h rfl dots).trans ?_
      exact (foldl_bar_moveTo o (bitImageBars [] s.pen.xpos s.pen.ypos dots) _ s).symm
  | rasterLine form length line =>
      refine Eq.trans ?_ (foldl_bar_moveTo o (rasterBars s.pen.xpos line) (s.pen.xpos + 1) s).symm
      rw [Command.strokes, replay_append, replay_barStrokes]
      rfl
  | blankLine =>
      refine Eq.trans ?_
        (foldl_bar_moveTo o (blankBars o.profile s.pen.xpos) (s.pen.xpos + 1) s).symm
      rw [Command.strokes, replay_append, replay_barStrokes]
      rfl
  | compression kind =>
      simp only [Command.strokes, perform, Command.bars, Command.move]
      split <;> rfl
  | printFeed code => rfl
  | formFeed => rfl
  | carriageReturn => rfl
  | lineFeed => rfl

end Sheet

namespace Decoder

variable (o : Options)

def sheet (d : Decoder) : Sheet := ⟨d.pen, d.surface⟩

theorem perform_sheet (command : Command) (d : Decoder) :
    (d.perform o command).sheet = d.sheet.perform o command :=
  (Sheet.foldl_bar o _ ⟨command.move o.profile d.pen, d.surface⟩).symm

def nextStrokes (d : Decoder) : List Stroke :=
  match (d.reading o).command? with
  | none => []
  | some command => command.strokes o d.pen

theorem advance_sheet (d : Decoder) : (d.advance o).1.sheet =
    match (d.reading o).command? with
    | none => d.sheet
    | some command => d.sheet.perform o command := by
  unfold advance
  split
  next hr => rw [hr]; rfl
  next hr => rw [hr]; exact perform_sheet o _ _
  next fragment after hr =>
    rw [hr]
    cases fragment with
    | header => rfl
    | graphics => rfl
    | body command => exact perform_sheet o _ _
  next hr => rw [hr]; rfl
  next hr => rw [hr]; rfl

theorem advance_replay {d : Decoder} (h : d.pen.Placed) :
    (d.advance o).1.sheet = d.sheet.replay (d.nextStrokes o) ∧ (d.advance o).1.pen.Placed := by
  have hs := d.advance_sheet o
  unfold nextStrokes
  cases hc : (d.reading o).command? with
  | none =>
      rw [hc] at hs
      have hp : (d.advance o).1.pen = d.pen := congrArg Sheet.pen hs
      exact ⟨hs, by rw [hp]; exact h⟩
  | some command =>
      rw [hc] at hs
      have hp : (d.advance o).1.pen = (d.sheet.perform o command).pen := congrArg Sheet.pen hs
      refine ⟨hs.trans (Sheet.replay_strokes h command).symm, ?_⟩
      rw [hp]
      exact Sheet.perform_placed (s := d.sheet) h command

/-- The strokes of up to `n` commands. -/
def strokes : Nat → Decoder → List Stroke
  | 0, _ => []
  | n + 1, d => if d.isFinished then [] else d.nextStrokes o ++ strokes n (d.advance o).1

theorem strokes_of_finished {d : Decoder} (h : d.isFinished = true) (n : Nat) :
    d.strokes o n = [] := by
  cases n with
  | zero => rfl
  | succ n => simp only [strokes, h, if_true]

theorem strokes_succ {d : Decoder} (h : d.isFinished = false) (n : Nat) :
    d.strokes o (n + 1) = d.nextStrokes o ++ (d.advance o).1.strokes o n := by
  simp only [strokes, h, Bool.false_eq_true, if_false]

theorem nextStrokes_of_atEnd {d : Decoder} (h : d.cursor.atEnd = true) : d.nextStrokes o = [] := by
  rw [nextStrokes, reading_atEnd o h]
  rfl

theorem strokes_of_atEnd {d : Decoder} (h : d.cursor.atEnd = true) (n : Nat) :
    d.strokes o n = [] := by
  cases n with
  | zero => rfl
  | succ n =>
      cases hf : d.isFinished with
      | true => exact strokes_of_finished o hf (n + 1)
      | false =>
          rw [strokes_succ o hf, nextStrokes_of_atEnd o h, advance_atEnd o h]
          exact strokes_of_finished o rfl n

theorem walk_replay {d : Decoder} (h : d.pen.Placed) (n : Nat) :
    (d.walk o n).1.sheet = d.sheet.replay (d.strokes o n) := by
  induction n generalizing d with
  | zero =>
      cases hf : d.isFinished with
      | true => rw [walk_of_finished o hf]; rfl
      | false =>
          cases he : d.cursor.atEnd with
          | true => rw [walk_of_atEnd o hf he]; rfl
          | false => rw [walk_zero o he]; rfl
  | succ n ih =>
      cases hf : d.isFinished with
      | true => rw [walk_of_finished o hf, strokes_of_finished o hf]; rfl
      | false =>
          obtain ⟨hs, hp⟩ := advance_replay o h
          rw [walk_succ o hf, strokes_succ o hf, ih hp, hs, Sheet.replay_append]

/-- What a walk draws is drawn first by every longer one. -/
theorem strokes_add (m n : Nat) (d : Decoder) :
    d.strokes o (m + n) = d.strokes o m ++ (d.walk o m).1.strokes o n := by
  induction m generalizing d with
  | zero =>
      rw [Nat.zero_add]
      cases hf : d.isFinished with
      | true => rw [walk_of_finished o hf]; rfl
      | false =>
          cases he : d.cursor.atEnd with
          | true =>
              rw [walk_of_atEnd o hf he, strokes_of_atEnd o he]
              exact (strokes_of_finished o rfl n).symm
          | false => rw [walk_zero o he]; rfl
  | succ m ih =>
      cases hf : d.isFinished with
      | true => rw [walk_of_finished o hf]; simp only [strokes_of_finished o hf]; rfl
      | false =>
          rw [Nat.succ_add, strokes_succ o hf, strokes_succ o hf, ih, walk_succ o hf,
            List.append_assoc]

end Decoder

namespace Session

variable (o : Options) (capture : Octets)

def history (budgets : List Nat) : List Stroke :=
  (Decoder.opened o capture).strokes o (allowance budgets)

theorem allowance_append (budgets more : List Nat) :
    allowance (budgets ++ more) = allowance budgets + allowance more := by
  induction budgets with
  | nil => exact (Nat.zero_add _).symm
  | cons budget budgets ih => rw [List.cons_append, allowance, ih, allowance, Nat.add_assoc]

theorem history_prefix (budgets more : List Nat) :
    history o capture budgets <+: history o capture (budgets ++ more) := by
  rw [history, history, allowance_append, Decoder.strokes_add]
  exact List.prefix_append _ _

/-- The pen and the picture of a decode are what its strokes make of an empty sheet. -/
theorem reached_sheet (sink : Sink) (budgets : List Nat) :
    (reached o sink capture budgets).decoder.sheet =
      Sheet.replay (history o capture budgets) ⟨.home, .blank o.maxWidth o.maxHeight⟩ := by
  cases budgets with
  | nil => rfl
  | cons budget budgets =>
      rw [reached_walk o sink capture (List.cons_ne_nil budget budgets)]
      exact Decoder.walk_replay o (d := Decoder.opened o capture) Pen.home_placed _

end Session
end LabelStream
