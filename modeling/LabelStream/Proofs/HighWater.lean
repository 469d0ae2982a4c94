import LabelStream.Proofs.Strokes

/-! How far right the pen has been and how far down a strip has reached. The pen keeps one mark of each,
the surface keeps the second once more and stores no dot outside its bound; all of them follow every
stroke of a decode, so they are right at any moment and not only behind a command. -/
namespace LabelStream

namespace Stroke

variable {s : Sheet}

theorem draw_placed (h : s.pen.Placed) (k : Stroke) : (k.draw s).pen.Placed := by
  cases k with
  | place x => exact s.pen.moveTo_placed x
  | feed dots => exact h
  | margin => exact h
  | top => exact h
  | compress => exact h
  | strip t filler => exact h

theorem draw_ordered (h : s.pen.Ordered) (k : Stroke) : (k.draw s).pen.Ordered := by
  cases k with
  | place x => exact Pen.moveTo_ordered h x
  | feed dots => exact h
  | margin => exact Nat.le_refl _
  | top => exact h
  | compress => exact h
  | strip t filler => exact h

theorem draw_within (h : s.pen.Ordered) (k : Stroke) : s.pen.Within (k.draw s).pen := by
  cases k with
  | place x => exact s.pen.moveTo_within x
  | feed dots => exact ⟨Nat.le_refl _, Nat.le_refl _, Nat.le_refl _, id⟩
  | margin => exact ⟨h, Nat.le_refl _, Nat.le_refl _, id⟩
  | top => exact ⟨Nat.le_refl _, Nat.le_refl _, Nat.le_refl _, id⟩
  | compress => exact ⟨Nat.le_refl _, Nat.le_refl _, Nat.le_refl _, fun _ => rfl⟩
  | strip t filler => exact ⟨Nat.le_refl _, Nat.le_refl _, Nat.le_max_left _ _, id⟩

theorem draw_xpos (k : Stroke) (s : Sheet) : (k.draw s).pen.xpos = k.place?.getD s.pen.xpos := by
  cases k <;> rfl

end Stroke

namespace Sheet

theorem replay_placed {s : Sheet} (h : s.pen.Placed) (strokes : List Stroke) :
    (s.replay strokes).pen.Placed := by
  induction strokes generalizing s with
  | nil => exact h
  | cons k strokes ih => exact ih (k.draw_placed h)

theorem replay_ordered {s : Sheet} (h : s.pen.Ordered) (strokes : List Stroke) :
    (s.replay strokes).pen.Ordered := by
  induction strokes generalizing s with
  | nil => exact h
  | cons k strokes ih => exact ih (k.draw_ordered h)

theorem replay_within {s : Sheet} (h : s.pen.Ordered) (strokes : List Stroke) :
    s.pen.Within (s.replay strokes).pen := by
  induction strokes generalizing s with
  | nil => exact .refl _
  | cons k strokes ih => exact (k.draw_within h).trans (ih (k.draw_ordered h))

variable (strokes : List Stroke) (s : Sheet)

theorem replay_xmax : (s.replay strokes).pen.xmax = (places strokes).foldl max s.pen.xmax := by
  induction strokes generalizing s with
  | nil => rfl
  | cons k strokes ih =>
      refine (ih (k.draw s)).trans ?_
      cases k <;> rfl

theorem replay_xpos : (s.replay strokes).pen.xpos = (places strokes).getLast?.getD s.pen.xpos := by
  -- The last stroke that places the pen decides, so the induction takes strokes off the end.
  induction strokes using List.reverseRecOn with
  | nil => rfl
  | append_singleton strokes k ih =>
      have hplaces : places (strokes ++ [k]) = places strokes ++ k.place?.toList := by
        rw [places, List.filterMap_append]
        cases k <;> rfl
      rw [replay_append, hplaces]
      refine (k.draw_xpos (s.replay strokes)).trans ?_
      cases k.place? with
      | none => rw [Option.toList_none, List.append_nil, Option.getD_none, ih]
      | some x => rw [Option.toList_some, List.getLast?_concat]; rfl

theorem replay_surface : (s.replay strokes).surface = s.surface.paintAll (strips strokes) := by
  induction strokes generalizing s with
  | nil => rfl
  | cons k strokes ih =>
      refine (ih (k.draw s)).trans ?_
      cases k <;> rfl

theorem replay_ymax : (s.replay strokes).pen.ymax =
    ((strips strokes).map Strip.bottom).foldl max s.pen.ymax := by
  induction strokes generalizing s with
  | nil => rfl
  | cons k strokes ih =>
      refine (ih (k.draw s)).trans ?_
      cases k <;> rfl

def blank (o : Options) : Sheet := ⟨.home, .blank o.maxWidth o.maxHeight⟩

end Sheet

namespace Surface

theorem paintAll_inside (strips : List Strip) (width height : Nat) :
    ((blank width height).paintAll strips).allocatedWidth ≤ width ∧
      ∀ x y, ((blank width height).paintAll strips).pixel x y = true → x < width ∧ y < height := by
  refine ⟨?columns, ?dots⟩
  case columns =>
    rw [allocatedWidth_paintAll, Bar.foldl_max_le_iff]
    refine ⟨Nat.zero_le _, fun row hrow => ?_⟩
    obtain ⟨t, ht, rfl⟩ := List.mem_map.mp hrow
    have touches := (List.mem_filter.mp ht).2
    simp only [Strip.touches, Bool.and_eq_true, decide_eq_true_eq] at touches
    exact touches.1
  case dots =>
    intro x y black
    by_contra outside
    rw [pixel_paintAll, blank_pixel] at black
    exact absurd ((if_neg outside).symm.trans black) Bool.false_ne_true

end Surface

theorem Decoder.walk_surface (o : Options) {d : Decoder} (h : d.pen.Placed) (n : Nat) :
    (d.walk o n).1.surface = d.surface.paintAll (strips (d.strokes o n)) :=
  (congrArg Sheet.surface (walk_replay o h n)).trans (Sheet.replay_surface _ _)

namespace Session

variable (o : Options) (sink : Sink) (capture : Octets) (budgets : List Nat)

theorem reached_surface : (reached o sink capture budgets).decoder.surface =
    (Surface.blank o.maxWidth o.maxHeight).paintAll (strips (history o capture budgets)) :=
  (congrArg Sheet.surface (reached_sheet o capture sink budgets)).trans (Sheet.replay_surface _ _)

theorem reached_ymax : (reached o sink capture budgets).decoder.pen.ymax =
    ((strips (history o capture budgets)).map Strip.bottom).foldl max 0 :=
  (congrArg (fun s : Sheet => s.pen.ymax) (reached_sheet o capture sink budgets)).trans
    (Sheet.replay_ymax _ (.blank o))

end Session

/-- A sheet on which these strokes were drawn, and nothing else, has its marks where they belong. -/
structure Tracked (o : Options) (strokes : List Stroke) (s : Sheet) : Prop where
  drawn : s = (Sheet.blank o).replay strokes
  xpos : s.pen.xpos = (places strokes).getLast?.getD 0
  xmax : s.pen.xmax = (places strokes).max?.getD 0
  xpos_le : s.pen.xpos ≤ s.pen.xmax
  xmin_le : s.pen.xmin ≤ s.pen.xmax
  ymax : s.pen.ymax = ((strips strokes).map Strip.bottom).max?.getD 0
  extent : s.pen.ymax = s.surface.extentY
  allocated_le : s.surface.allocatedWidth ≤ o.maxWidth
  inside : ∀ x y, s.surface.pixel x y = true → x < o.maxWidth ∧ y < o.maxHeight

theorem Sheet.replay_tracked (o : Options) (strokes : List Stroke) :
    Tracked o strokes ((blank o).replay strokes) := by
  have hymax := replay_ymax strokes (blank o)
  have hsurface := replay_surface strokes (blank o)
  have hextent := Surface.extentY_paintAll (.blank o.maxWidth o.maxHeight) (strips strokes)
  obtain ⟨columns, dots⟩ := Surface.paintAll_inside (strips strokes) o.maxWidth o.maxHeight
  constructor
  case drawn => rfl
  case xpos => exact replay_xpos strokes (blank o)
  case xmax => exact (replay_xmax strokes (blank o)).trans (Surface.foldl_max_eq _)
  case xpos_le => exact replay_placed (s := blank o) Pen.home_placed strokes
  case xmin_le => exact replay_ordered (s := blank o) (Nat.le_refl 0) strokes
  case ymax => exact hymax.trans (Surface.foldl_max_eq _)
  case extent => exact hymax.trans (hextent.symm.trans (congrArg Surface.extentY hsurface.symm))
  case allocated_le => rw [hsurface]; exact columns
  case inside => rw [hsurface]; exact dots

/-- The marks of a decode are right at any moment, and what they measure never shrinks. -/
theorem Session.marks_follow_strokes (o : Options) (sink : Sink) (capture : Octets)
    (budgets : List Nat) :
    let d := (reached o sink capture budgets).decoder
    let done := history o capture budgets
    Tracked o done d.sheet ∧
    (∀ earlier, earlier <+: done →
      Tracked o earlier ((Sheet.blank o).replay earlier) ∧
        ((Sheet.blank o).replay earlier).pen.Within d.pen) ∧
    ∀ more, let later := (reached o sink capture (budgets ++ more)).decoder
      done <+: history o capture (budgets ++ more) ∧ d.pen.Within later.pen := by
  intro d done
  have hpen : ∀ budgets, (reached o sink capture budgets).decoder.pen =
      ((Sheet.blank o).replay (history o capture budgets)).pen :=
    fun budgets => congrArg Sheet.pen (reached_sheet o capture sink budgets)
  have grows : ∀ done more : List Stroke, ((Sheet.blank o).replay done).pen.Within
      ((Sheet.blank o).replay (done ++ more)).pen := by
    intro done more
    rw [Sheet.replay_append]
    exact Sheet.replay_within (Sheet.replay_ordered (s := .blank o) (Nat.le_refl 0) done) more
  refine ⟨?now, ?before, ?later⟩
  case now =>
    have hsheet : d.sheet = (Sheet.blank o).replay done := reached_sheet o capture sink budgets
    rw [hsheet]
    exact Sheet.replay_tracked o done
  case before =>
    rintro earlier ⟨rest, hrest⟩
    refine ⟨Sheet.replay_tracked o earlier, ?_⟩
    rw [hpen budgets]
    change Pen.Within _ ((Sheet.blank o).replay done).pen
    rw [← hrest]
    exact grows earlier rest
  case later =>
    intro more later
    have hbegins := history_prefix o capture budgets more
    refine ⟨hbegins, ?_⟩
    obtain ⟨rest, hrest⟩ := hbegins
    rw [hpen budgets, hpen (budgets ++ more), ← hrest]
    exact grows (history o capture budgets) rest

end LabelStream
