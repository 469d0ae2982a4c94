import LabelStream.Proofs.Magnitude
import LabelStream.Proofs.Steering

/-! Drawing the same further right. Where a command leaves the pen and what it draws is said in columns
counted from the left margin, so a page comes out the same wherever its margin is. There are two
exceptions: a form feed goes to the left edge of the picture, and no move goes past the last column. -/
namespace LabelStream

namespace Strip

def right (n : Nat) (t : Strip) : Strip := { t with x := n + t.x }

end Strip

namespace Stroke

def right (n : Nat) : Stroke → Stroke
  | place x => place (n + x)
  | strip t filler => strip (t.right n) filler
  | feed dots => feed dots
  | margin => margin
  | top => top
  | compress => compress

end Stroke

theorem strips_right (n : Nat) (strokes : List Stroke) :
    strips (strokes.map (Stroke.right n)) = (strips strokes).map (Strip.right n) := by
  induction strokes with
  | nil => rfl
  | cons k strokes ih =>
      cases k with
      | strip t filler => exact congrArg (t.right n :: ·) ih
      | _ => exact ih

namespace Surface

/-- Strips further right are seen beside the strips that do not reach there. -/
theorem pixel_beside {n : Nat} {done : List Strip} (left : ∀ t ∈ done, t.x < n) (strips : List Strip)
    (width height x y : Nat) :
    ((blank width height).paintAll (done ++ strips.map (Strip.right n))).pixel x y =
      if x < n then ((blank width height).paintAll done).pixel x y
      else decide (x < width) && ((blank width height).paintAll strips).pixel (x - n) y := by
  simp only [pixel_paintAll, blank_pixel, List.filter_append]
  simp only [blank]
  by_cases hx : x < n
  · have none : (strips.map (Strip.right n)).filter (Strip.covers x y) = [] := by
      rw [List.filter_eq_nil_iff]
      intro t ht
      obtain ⟨t, _, rfl⟩ := List.mem_map.mp ht
      simp only [Strip.covers, Strip.right, Bool.and_eq_true, beq_iff_eq]
      omega
    rw [if_pos hx, none, List.append_nil]
  · have none : done.filter (Strip.covers x y) = [] := by
      rw [List.filter_eq_nil_iff]
      intro t ht
      have := left t ht
      simp only [Strip.covers, Bool.and_eq_true, beq_iff_eq]
      omega
    have covers : Strip.covers x y ∘ Strip.right n = Strip.covers (x - n) y := by
      funext t
      have same : (n + t.x == x) = (t.x == x - n) := by
        rw [Bool.eq_iff_iff, beq_iff_eq, beq_iff_eq]
        omega
      simp only [Function.comp_apply, Strip.covers, Strip.right, same]
      rfl
    rw [if_neg hx, none, List.nil_append, List.filter_map, covers, List.getLast?_map, Option.map_map]
    by_cases inside : x < width
    · have inside' : x - n < width := by omega
      simp only [inside, inside', true_and, decide_true, Bool.true_and]
      rfl
    · simp only [inside, false_and, if_false, decide_false, Bool.false_and]

end Surface

namespace Bar

def right (n : Nat) (b : Bar) : Bar := { b with x := n + b.x }

theorem strokes_right (n : Nat) (b : Bar) :
    (b.right n).strokes = b.strokes.map (Stroke.right n) := by
  simp only [strokes, List.map_map]
  rfl

end Bar

section

variable (o : Options) (n : Nat)

theorem barStrokes_right (bars : List Bar) :
    barStrokes o (bars.map (Bar.right n)) = (barStrokes o bars).map (Stroke.right n) := by
  have visible : Decoder.visibleBars o (bars.map (Bar.right n)) =
      (Decoder.visibleBars o bars).map (Bar.right n) := by
    unfold Decoder.visibleBars
    split
    · rfl
    · rw [List.filter_map]
      rfl
  rw [barStrokes, visible, List.flatMap_map, barStrokes, List.map_flatMap]
  simp only [Bar.strokes_right]

theorem bitImageStrokes_right (x y : Nat) (dots : Octets) :
    bitImageStrokes o (n + x) y dots = (bitImageStrokes o x y dots).map (Stroke.right n) := by
  fun_induction bitImageStrokes o x y dots with
  | case1 x => rfl
  | case2 x a => exact Bar.strokes_right n ⟨x, y, [a], false⟩
  | case3 x a b => exact Bar.strokes_right n ⟨x, y, [a, b], false⟩
  | case4 x a b c rest ih =>
      have bars := barStrokes_right o n (Sheet.tripleBars x y ⟨a, b, c⟩)
      have rest : bitImageStrokes o (n + x + 1) y rest = _ := ih
      rw [bitImageStrokes, List.map_append, ← bars, rest]
      rfl

end

namespace Pen

/-- The pen of a page that begins right of all that the first pen has left behind. -/
def beside (first pen : Pen) : Pen where
  xpos := first.xmax + pen.xpos
  ypos := pen.ypos
  xmin := first.xmax + pen.xmin
  xmax := first.xmax + pen.xmax
  ymax := max first.ymax pen.ymax
  compression := pen.compression

variable (first pen : Pen)

theorem beside_moveTo (x : Nat) :
    (first.beside pen).moveTo (first.xmax + x) = first.beside (pen.moveTo x) := by
  simp only [moveTo, beside, Nat.add_max_add_left]

end Pen

namespace Sheet

variable {first : Pen} {s alone : Sheet}

theorem draw_beside (h : s.pen = first.beside alone.pen) (k : Stroke) :
    ((k.right first.xmax).draw s).pen = first.beside (k.draw alone).pen := by
  rcases s with ⟨pen, surface⟩
  simp only at h
  subst h
  cases k with
  | place x => exact first.beside_moveTo alone.pen x
  | strip t filler =>
      simp only [Stroke.right, Stroke.draw, Sheet.strip, Pen.beside, Nat.max_assoc]
      rfl
  | _ => rfl

/-- Strokes further right move a pen further right the same way. -/
theorem replay_beside (h : s.pen = first.beside alone.pen) (strokes : List Stroke) :
    (s.replay (strokes.map (Stroke.right first.xmax))).pen =
      first.beside (alone.replay strokes).pen := by
  induction strokes generalizing s alone with
  | nil => exact h
  | cons k strokes ih => exact ih (draw_beside h k)

end Sheet

namespace Command

/-- Nothing keeps the command from doing the same `n` columns further right. -/
def Slides (n : Nat) (pen : Pen) : Command → Prop
  | relativeMove dots => n + (pen.xpos + dots) ≤ lastColumn
  | formFeed => False
  | _ => True

theorem strokes_beside (o : Options) {first pen : Pen} {command : Command}
    (h : command.Slides first.xmax pen) :
    command.strokes o (first.beside pen) =
      (command.strokes o pen).map (Stroke.right first.xmax) := by
  cases command with
  | reset => rfl
  | printFeed code => rfl
  | carriageReturn => rfl
  | lineFeed => rfl
  | formFeed => exact h.elim
  | relativeMove dots =>
      have room : first.xmax + (pen.xpos + dots) ≤ lastColumn := h
      have alone : min (pen.xpos + dots) lastColumn = pen.xpos + dots := by omega
      have slid : min (first.xmax + pen.xpos + dots) lastColumn = first.xmax + (pen.xpos + dots) := by
        omega
      simp only [strokes, Pen.beside, alone, slid, List.map_cons, List.map_nil, Stroke.right]
  | setting code operands =>
      simp only [strokes]
      split <;> rfl
  | compression kind =>
      simp only [strokes]
      split <;> rfl
  | bitImage mode columns dots => exact bitImageStrokes_right o first.xmax pen.xpos pen.ypos dots
  | rasterLine form length line =>
      rw [strokes, strokes, List.map_append, ← barStrokes_right]
      rfl
  | blankLine =>
      rw [strokes, strokes, List.map_append, ← barStrokes_right]
      rfl

end Command

namespace Decoder

/-- The commands that up to `n` moves perform, a cut one with what arrived of it. -/
def performed (o : Options) : Nat → Decoder → List Command
  | 0, _ => []
  | n + 1, d =>
    if d.isFinished then [] else (d.reading o).command?.toList ++ performed o n (d.advance o).1

variable (o : Options)

theorem performed_of_finished {d : Decoder} (h : d.isFinished = true) (n : Nat) :
    d.performed o n = [] := by
  cases n with
  | zero => rfl
  | succ n => simp only [performed, h, if_true]

theorem performed_succ {d : Decoder} (h : d.isFinished = false) (n : Nat) :
    d.performed o (n + 1) = (d.reading o).command?.toList ++ (d.advance o).1.performed o n := by
  simp only [performed, h, Bool.false_eq_true, if_false]

theorem performed_of_atEnd {d : Decoder} (h : d.cursor.atEnd = true) (n : Nat) :
    d.performed o n = [] := by
  cases hf : d.isFinished with
  | true => exact performed_of_finished o hf n
  | false =>
      cases n with
      | zero => rfl
      | succ n =>
          rw [performed_succ o hf, reading_atEnd o h, advance_atEnd o h]
          exact performed_of_finished o rfl n

/-- No more is performed than by the end of the decode. -/
theorem performed_of_walk {d : Decoder} {m : Nat} (h : (d.walk o m).1.isFinished = true) (n : Nat)
    {command : Command} (hc : command ∈ d.performed o n) : command ∈ d.performed o m := by
  induction m generalizing d n with
  | zero =>
      cases hf : d.isFinished with
      | true => rwa [performed_of_finished o hf] at hc
      | false =>
          cases he : d.cursor.atEnd with
          | true => rwa [performed_of_atEnd o he] at hc
          | false => rw [walk_zero o he, hf] at h; cases h
  | succ m ih =>
      cases hf : d.isFinished with
      | true =>
          rw [performed_of_finished o hf] at hc
          cases hc
      | false =>
          cases n with
          | zero => cases hc
          | succ n =>
              rw [walk_succ o hf] at h
              rw [performed_succ o hf] at hc ⊢
              rcases List.mem_append.mp hc with hc | hc
              · exact List.mem_append_left _ hc
              · exact List.mem_append_right _ (ih h n hc)

/-- The commands of a sentence are performed first. -/
theorem performed_sentence {mode last : Bool} {words : List Octets} {commands : List Command}
    (h : Sentence o.acceptAnyGraphicsMode mode words commands last) (p n : Nat) {sheet : Sheet}
    (hm : sheet.pen.compression = mode) (rest : Octets) (m : Nat) :
    (ready ⟨p, words.flatten ++ rest⟩ n sheet).performed o (words.length + m) =
      commands ++ (ready ⟨p + words.flatten.length, rest⟩ (n + words.length)
        (commands.foldl (Sheet.perform o) sheet)).performed o m := by
  induction h generalizing p n sheet with
  | nil mode =>
      rw [List.length_nil, Nat.zero_add]
      rfl
  | @cons mode last word command words commands spelt rest' ih =>
      have hr := Grammar.read_spells spelt p (words.flatten ++ rest)
      rw [← hm] at hr
      rw [List.flatten_cons, List.append_assoc, List.length_cons, Nat.add_right_comm,
        performed_succ o rfl, advance_whole hr, reading_ready, hr,
        ih (p + word.length) (n + 1) (by rw [Sheet.perform_compression o, hm]), List.foldl_cons,
        List.length_append, Nat.add_assoc p, Nat.add_assoc n, Nat.add_comm 1]
      rfl

/-- A decoder on the page right of what the first pen has left, and one that draws the page alone. -/
structure Beside (first : Pen) (d alone : Decoder) : Prop where
  phase : d.phase = alone.phase
  cursor : d.cursor = alone.cursor
  pen : d.pen = first.beside alone.pen

theorem Afforded.placed {bytes : Nat} {d : Decoder} (h : d.Afforded bytes) : d.pen.Placed := by
  obtain ⟨_, pen, _⟩ := h
  exact pen.placed

/-- What the decoder is about to perform does the same `n` columns further right. -/
def Slides (n : Nat) (d : Decoder) : Prop :=
  ∀ command, (d.reading o).command? = some command → command.Slides n d.pen

/-- Bytes below this bound cannot afford a move past the last column. -/
theorem Afforded.slides {o} {bytes n : Nat} {d : Decoder} (h : d.Afforded bytes)
    (room : 4 * n + 65535 * (bytes + 4) ≤ 4 * lastColumn)
    (level : .formFeed ∉ (d.reading o).command?.toList) : d.Slides o n := by
  intro command hc
  obtain ⟨spent, ⟨placed, _, hxmax, _, _⟩, hle⟩ := h
  cases command with
  | formFeed =>
      rw [hc] at level
      exact level (List.mem_singleton.mpr rfl)
  | relativeMove dots =>
      -- A move takes four bytes, so those unread leave the room that it needs.
      obtain ⟨hdots, _⟩ : dots < 65536 ∧ 4 ≤ d.cursor.rest.length :=
        Grammar.read_paid _ d.cursor _ hc
      unfold Pen.Placed at placed
      unfold Command.Slides
      omega
  | _ => trivial

namespace Beside

variable {o} {first : Pen} {d alone : Decoder}

theorem isFinished (h : d.Beside first alone) : d.isFinished = alone.isFinished := by
  simp only [Decoder.isFinished, h.phase]

theorem reading (o : Options) (h : d.Beside first alone) : d.reading o = alone.reading o := by
  rw [Decoder.reading, Decoder.reading, h.cursor, h.pen]
  rfl

theorem nextStrokes (h : d.Beside first alone) (slides : alone.Slides o first.xmax) :
    d.nextStrokes o = (alone.nextStrokes o).map (Stroke.right first.xmax) := by
  rw [Decoder.nextStrokes, Decoder.nextStrokes, h.reading]
  cases hc : (alone.reading o).command? with
  | none => rfl
  | some command =>
      dsimp only
      rw [h.pen, Command.strokes_beside o (slides command hc)]

theorem advance (h : d.Beside first alone) (placed : alone.pen.Placed)
    (slides : alone.Slides o first.xmax) :
    (d.advance o).1.Beside first (alone.advance o).1 := by
  obtain ⟨hphase, hcursor, _⟩ := d.advance_reading o
  obtain ⟨hphase', hcursor', _⟩ := alone.advance_reading o
  rw [h.reading, h.cursor] at hphase hcursor
  have placed' : d.pen.Placed := by
    rw [h.pen]
    exact Nat.add_le_add_left placed _
  have sheet := (advance_replay o placed').1
  have sheet' := (advance_replay o placed).1
  rw [h.nextStrokes slides] at sheet
  have beside : d.sheet.pen = first.beside alone.sheet.pen := h.pen
  have pen := Sheet.replay_beside beside (alone.nextStrokes o)
  constructor
  case phase => rw [hphase, hphase']
  case cursor => rw [hcursor, hcursor']
  case pen =>
    rw [← sheet, ← sheet'] at pen
    exact pen

/-- A page goes the same way right of another as alone, and draws the same strokes further right. -/
theorem walk {bytes : Nat} (h : d.Beside first alone) (afforded : alone.Afforded bytes)
    (room : 4 * first.xmax + 65535 * (bytes + 4) ≤ 4 * lastColumn) {n : Nat}
    (level : .formFeed ∉ alone.performed o n) :
    (d.walk o n).1.Beside first (alone.walk o n).1 ∧
      d.strokes o n = (alone.strokes o n).map (Stroke.right first.xmax) := by
  induction n generalizing d alone with
  | zero =>
      refine ⟨?_, rfl⟩
      cases hf : alone.isFinished with
      | true =>
          rw [walk_of_finished o hf, walk_of_finished o (h.isFinished.trans hf)]
          exact h
      | false =>
          have hfinished := h.isFinished.trans hf
          cases he : alone.cursor.atEnd with
          | true =>
              have he' : d.cursor.atEnd = true := by rw [h.cursor, he]
              rw [walk_of_atEnd o hf he, walk_of_atEnd o hfinished he']
              exact ⟨rfl, h.cursor, h.pen⟩
          | false =>
              have he' : d.cursor.atEnd = false := by rw [h.cursor, he]
              rw [walk_zero o he, walk_zero o he']
              exact h
  | succ n ih =>
      have hfinished := h.isFinished
      cases hf : alone.isFinished with
      | true =>
          rw [hf] at hfinished
          rw [walk_of_finished o hf, walk_of_finished o hfinished, strokes_of_finished o hf,
            strokes_of_finished o hfinished]
          exact ⟨h, rfl⟩
      | false =>
          rw [hf] at hfinished
          rw [performed_succ o hf, List.mem_append, not_or] at level
          have slides := afforded.slides room level.1
          -- The budget covers the bytes already read, so the bound holds for the rest as it stands.
          obtain ⟨hwalk, hstrokes⟩ :=
            ih (h.advance afforded.placed slides) (advance_afforded o afforded) level.2
          rw [walk_succ o hf, walk_succ o hfinished, strokes_succ o hf, strokes_succ o hfinished,
            h.nextStrokes slides, hstrokes, List.map_append]
          exact ⟨hwalk, rfl⟩

end Beside

end Decoder

end LabelStream
