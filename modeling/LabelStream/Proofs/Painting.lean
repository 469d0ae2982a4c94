import LabelStream.Surface
import Mathlib.Algebra.BigOperators.Group.Finset.Piecewise
import Mathlib.Algebra.BigOperators.Group.Finset.Sigma
import Mathlib.Data.List.Induction

/-! What a surface shows of the strips that were painted on it, in any order and one over another. Its
columns have different lengths and grow as they are needed; what can be seen depends only on the
strips. -/
namespace LabelStream

/-- Dots of a column from row `y` down to the row `bottom`, the highest bit for the top dot. -/
structure Patch where
  x : Nat
  y : Nat
  bottom : Nat
  dots : UInt8
  deriving Repr, DecidableEq

namespace Patch

/-- The dot at `(x, y)` is one of the patch's. -/
def covers (x y : Nat) (p : Patch) : Bool := p.x == x && p.y ≤ y && y < p.bottom

/-- The colour that the patch gives to its dot in row `y`. -/
def dot (y : Nat) (p : Patch) : Bool := p.dots.toNat.testBit (7 - (y - p.y))

def fits (width height : Nat) (p : Patch) : Bool := p.x < width && p.bottom ≤ height

/-- The patch begins or ends inside the bound. -/
def meets (width height : Nat) (p : Patch) : Bool :=
  p.fits width height || (p.x < width && p.y < height)

end Patch

/-- One strip and the place where it is painted. -/
structure Strip where
  x : Nat
  y : Nat
  dots : UInt8
  deriving Repr, DecidableEq

namespace Strip

def bottom (t : Strip) : Nat := t.y + stripHeight

def covers (x y : Nat) (t : Strip) : Bool := t.x == x && t.y ≤ y && y < t.bottom

/-- The colour that the strip gives to its dot in row `y`. The highest bit is the top dot. -/
def dot (y : Nat) (t : Strip) : Bool := t.dots.toNat.testBit (7 - (y - t.y))

/-- Some dot of the strip is inside the bound. -/
def touches (width height : Nat) (t : Strip) : Bool := t.x < width && t.y < height

def patch (t : Strip) : Patch := ⟨t.x, t.y, t.bottom, t.dots⟩

theorem covers_iff (t : Strip) (x y : Nat) :
    t.covers x y = true ↔ t.x = x ∧ t.y ≤ y ∧ y < t.bottom := by
  simp only [covers, Bool.and_eq_true, beq_iff_eq, decide_eq_true_eq, and_assoc]

/-- A strip ends below its top, so it meets the bound just if it touches it. -/
theorem meets_patch (width height : Nat) (t : Strip) :
    t.patch.meets width height = t.touches width height := by
  have below : t.y < t.bottom := Nat.lt_add_of_pos_right (by decide)
  have met : (t.x < width ∧ t.bottom ≤ height ∨ t.x < width ∧ t.y < height) ↔
      t.x < width ∧ t.y < height := by omega
  rw [Bool.eq_iff_iff]
  simp only [Patch.meets, Patch.fits, touches, Bool.or_eq_true, Bool.and_eq_true, decide_eq_true_eq]
  exact met

end Strip

namespace Column

theorem write_getD (y : Nat) (dots : UInt8) (n : Nat) (column : Column) (row : Nat) :
    (write y dots n column).getD row false =
      if y ≤ row ∧ row < y + n ∧ row < column.size then dots.toNat.testBit (7 - (row - y))
      else column.getD row false := by
  induction n generalizing column with
  | zero =>
      rw [if_neg (by omega)]
      rfl
  | succ n ih =>
      rw [write, ih, Array.size_setIfInBounds]
      simp only [Array.getD_eq_getD_getElem?, Array.getElem?_setIfInBounds]
      by_cases last : y + n = row
      · subst last
        by_cases inside : y + n < column.size
        · rw [if_neg (by omega), if_pos rfl, if_pos inside, if_pos (by omega), Nat.add_sub_cancel_left]
          rfl
        · rw [if_neg (by omega), if_pos rfl, if_neg inside, if_neg (by omega),
            Array.getElem?_eq_none (Nat.le_of_not_lt inside)]
      · rw [if_neg last]
        exact if_congr (by omega) rfl rfl

theorem extend_size (rows : Nat) (column : Column) :
    (extend rows column).size = max column.size rows := by
  rw [extend, Array.size_append, Array.size_replicate]
  omega

theorem extend_getD (rows : Nat) (column : Column) (row : Nat) :
    (extend rows column).getD row false = column.getD row false := by
  simp only [extend, Array.getD_eq_getD_getElem?, Array.getElem?_append, Array.getElem?_replicate]
  split
  · rfl
  next h =>
    rw [Array.getElem?_eq_none (Nat.le_of_not_lt h)]
    split <;> rfl

end Column

namespace Surface

def paintPatch (s : Surface) (p : Patch) : Surface × Bool := s.paintTo p.x p.y p.bottom p.dots

def paintPatches (patches : List Patch) (s : Surface) : Surface :=
  patches.foldl (fun s p => (s.paintPatch p).1) s

variable (s : Surface) (p : Patch)

/-- The columns with the patch's added, and the patch drawn in it as far as the bound allows. -/
def drawn (s : Surface) (p : Patch) : Array Column :=
  (s.columns ++ Array.replicate (p.x + 1 - s.columns.size) #[]).modify p.x fun column =>
    Column.write p.y p.dots (min p.bottom s.maxHeight - p.y)
      (Column.extend (min p.bottom s.maxHeight) column)

/-- The surface with the given columns, the patch's lower edge noted and the patch counted if it does not
fit. -/
def noted (s : Surface) (p : Patch) (columns : Array Column) : Surface where
  columns := columns
  maxWidth := s.maxWidth
  maxHeight := s.maxHeight
  extentY := max s.extentY p.bottom
  clipped := if p.fits s.maxWidth s.maxHeight = true then s.clipped else s.clipped + 1

/-- All that painting does: a patch that meets the bound is drawn, and one that does not fit is counted
and denied. -/
theorem paintPatch_eq : s.paintPatch p =
    (s.noted p (if p.meets s.maxWidth s.maxHeight = true then s.drawn p else s.columns),
      p.fits s.maxWidth s.maxHeight) := by
  change (if p.meets s.maxWidth s.maxHeight = true then
      (s.noted p (s.drawn p), min p.bottom s.maxHeight == p.bottom)
    else (s.noted p s.columns, false)) = _
  by_cases met : p.meets s.maxWidth s.maxHeight = true
  · have floor : (min p.bottom s.maxHeight == p.bottom) = p.fits s.maxWidth s.maxHeight := by
      simp only [Patch.meets, Patch.fits, Bool.or_eq_true, Bool.and_eq_true, decide_eq_true_eq] at met
      rw [Bool.eq_iff_iff, beq_iff_eq, min_eq_left_iff]
      simp only [Patch.fits, Bool.and_eq_true, decide_eq_true_eq]
      omega
    rw [if_pos met, if_pos met, floor]
  · have missed : p.fits s.maxWidth s.maxHeight = false := by
      rw [Bool.not_eq_true, Patch.meets, Bool.or_eq_false_iff] at met
      exact met.1
    rw [if_neg met, if_neg met, missed]

theorem paintPatch_bound :
    (s.paintPatch p).1.maxWidth = s.maxWidth ∧ (s.paintPatch p).1.maxHeight = s.maxHeight := by
  rw [paintPatch_eq]
  exact ⟨rfl, rfl⟩

theorem paintPatch_columns : (s.paintPatch p).1.columns =
    if p.meets s.maxWidth s.maxHeight = true then s.drawn p else s.columns := by
  rw [paintPatch_eq]
  rfl

theorem paintPatch_extentY : (s.paintPatch p).1.extentY = max s.extentY p.bottom := by
  rw [paintPatch_eq]
  rfl

theorem paintPatch_clipped : (s.paintPatch p).1.clipped =
    if p.fits s.maxWidth s.maxHeight = true then s.clipped else s.clipped + 1 := by
  rw [paintPatch_eq]
  rfl

theorem drawn_size : (s.drawn p).size = max s.columns.size (p.x + 1) := by
  rw [drawn, Array.size_modify, Array.size_append, Array.size_replicate]
  omega

def column (s : Surface) (x : Nat) : Column := s.columns.getD x #[]

theorem pixel_eq (x y : Nat) : s.pixel x y = (s.column x).getD y false := by
  have hc : s.column x = s.columns[x]?.getD #[] := Array.getD_eq_getD_getElem?
  rw [hc, pixel]
  cases s.columns[x]? <;> rfl

theorem getD_grow (columns : Array Column) (n x : Nat) :
    (columns ++ Array.replicate n #[]).getD x #[] = columns.getD x #[] := by
  simp only [Array.getD_eq_getD_getElem?, Array.getElem?_append, Array.getElem?_replicate]
  split
  · rfl
  next out =>
    rw [Array.getElem?_eq_none (Nat.le_of_not_lt out)]
    split <;> rfl

theorem drawn_getD (x : Nat) : (s.drawn p).getD x #[] =
    if p.x = x then
      Column.write p.y p.dots (min p.bottom s.maxHeight - p.y)
        (Column.extend (min p.bottom s.maxHeight) (s.column x))
    else s.column x := by
  have hsize := s.drawn_size p
  rw [drawn, Array.size_modify] at hsize
  rw [drawn, Array.getD_eq_getD_getElem?, Array.getElem?_modify]
  split
  next same =>
    subst same
    have hx : p.x < (s.columns ++ Array.replicate (p.x + 1 - s.columns.size) #[]).size := by omega
    rw [column, ← getD_grow s.columns (p.x + 1 - s.columns.size) p.x, Array.getD_eq_getD_getElem?,
      Array.getElem?_eq_getElem hx]
    rfl
  · rw [← Array.getD_eq_getD_getElem?, getD_grow]
    rfl

/-- A patch decides the dots that it covers inside the bound, and no others. -/
theorem pixel_paintPatch (x y : Nat) :
    (s.paintPatch p).1.pixel x y =
      if (x < s.maxWidth ∧ y < s.maxHeight) ∧ p.covers x y = true then p.dot y
      else s.pixel x y := by
  rw [pixel_eq, column, paintPatch_columns, apply_ite (Array.getD · x #[]), drawn_getD]
  simp only [pixel_eq, Patch.meets, Patch.fits, Patch.covers, Patch.dot, Bool.or_eq_true,
    Bool.and_eq_true, decide_eq_true_eq, beq_iff_eq]
  by_cases drawn :
      (p.x < s.maxWidth ∧ p.bottom ≤ s.maxHeight ∨ p.x < s.maxWidth ∧ p.y < s.maxHeight) ∧ p.x = x
  · obtain ⟨met, rfl⟩ := drawn
    rw [if_pos met, if_pos rfl, Column.write_getD, Column.extend_size, Column.extend_getD]
    exact if_congr (by omega) rfl rfl
  · have hc : s.columns.getD x #[] = s.column x := rfl
    rw [hc, if_neg (by omega : ¬ ((x < s.maxWidth ∧ y < s.maxHeight) ∧ _))]
    split
    next met => rw [if_neg fun same => drawn ⟨met, same⟩]
    next => rfl

variable (patches : List Patch)

theorem paintPatches_concat : s.paintPatches (patches ++ [p]) = ((s.paintPatches patches).paintPatch p).1 := by
  simp only [paintPatches, List.foldl_append, List.foldl_cons, List.foldl_nil]

theorem paintPatches_bound : (s.paintPatches patches).maxWidth = s.maxWidth ∧
    (s.paintPatches patches).maxHeight = s.maxHeight := by
  induction patches generalizing s with
  | nil => exact ⟨rfl, rfl⟩
  | cons p patches ih =>
      obtain ⟨hw, hh⟩ := ih (s.paintPatch p).1
      exact ⟨hw.trans (s.paintPatch_bound p).1, hh.trans (s.paintPatch_bound p).2⟩

/-- Of the patches that cover a dot inside the bound, the last one decides its colour. -/
theorem pixel_paintPatches (x y : Nat) :
    (s.paintPatches patches).pixel x y =
      if x < s.maxWidth ∧ y < s.maxHeight then
        ((patches.filter (Patch.covers x y)).getLast?.map (Patch.dot y)).getD (s.pixel x y)
      else s.pixel x y := by
  induction patches using List.reverseRecOn with
  | nil => exact (ite_self _).symm
  | append_singleton patches p ih =>
      obtain ⟨hw, hh⟩ := s.paintPatches_bound patches
      rw [paintPatches_concat, pixel_paintPatch, ih, hw, hh, List.filter_append]
      by_cases inside : x < s.maxWidth ∧ y < s.maxHeight
      · by_cases covered : p.covers x y = true
        · rw [if_pos ⟨inside, covered⟩, if_pos inside, List.filter_cons_of_pos covered, List.filter_nil,
            List.getLast?_concat]
          rfl
        · rw [if_neg fun h => covered h.2, if_pos inside, if_pos inside, List.filter_cons_of_neg covered,
            List.filter_nil, List.append_nil]
      · rw [if_neg fun h => inside h.1, if_neg inside, if_neg inside]

theorem foldl_max_eq (rows : List Nat) : rows.foldl max 0 = rows.max?.getD 0 := by
  cases rows with
  | nil => rfl
  | cons row rows => rw [List.foldl_cons, Nat.zero_max, List.max?_cons', Option.getD_some]

theorem extentY_paintPatches :
    (s.paintPatches patches).extentY = (patches.map Patch.bottom).foldl max s.extentY := by
  induction patches generalizing s with
  | nil => rfl
  | cons p patches ih => exact (ih (s.paintPatch p).1).trans (by rw [paintPatch_extentY]; rfl)

theorem allocatedWidth_paintPatches : (s.paintPatches patches).allocatedWidth =
    ((patches.filter (Patch.meets s.maxWidth s.maxHeight)).map (·.x + 1)).foldl max
      s.allocatedWidth := by
  induction patches generalizing s with
  | nil => rfl
  | cons p patches ih =>
      obtain ⟨hw, hh⟩ := s.paintPatch_bound p
      have grown : (s.paintPatch p).1.allocatedWidth =
          if p.meets s.maxWidth s.maxHeight = true then max s.allocatedWidth (p.x + 1)
          else s.allocatedWidth := by
        rw [allocatedWidth, paintPatch_columns, apply_ite Array.size, drawn_size]
        rfl
      refine (ih (s.paintPatch p).1).trans ?_
      rw [grown, hw, hh, List.filter_cons]
      split <;> rfl

theorem clipped_paintPatches : (s.paintPatches patches).clipped =
    s.clipped + (patches.map (Patch.fits s.maxWidth s.maxHeight)).count false := by
  induction patches generalizing s with
  | nil => rfl
  | cons p patches ih =>
      obtain ⟨hw, hh⟩ := s.paintPatch_bound p
      refine (ih (s.paintPatch p).1).trans ?_
      rw [hw, hh, paintPatch_clipped, List.map_cons, List.count_cons]
      cases p.fits s.maxWidth s.maxHeight with
      | false => exact (Nat.add_assoc _ _ _).trans (congrArg _ (Nat.add_comm _ _))
      | true => rfl

/-! ### Strips of a job -/

def paintStrip (s : Surface) (t : Strip) : Surface := s.paint t.x t.y t.dots

def paintAll (strips : List Strip) (s : Surface) : Surface := strips.foldl paintStrip s

variable (t : Strip)

theorem paintStrip_bound :
    (s.paintStrip t).maxWidth = s.maxWidth ∧ (s.paintStrip t).maxHeight = s.maxHeight :=
  s.paintPatch_bound t.patch

theorem paintStrip_extentY : (s.paintStrip t).extentY = max s.extentY t.bottom :=
  s.paintPatch_extentY t.patch

theorem paintStrip_clipped : (s.paintStrip t).clipped =
    if t.patch.fits s.maxWidth s.maxHeight = true then s.clipped else s.clipped + 1 :=
  s.paintPatch_clipped t.patch

theorem pixel_paintStrip (x y : Nat) :
    (s.paintStrip t).pixel x y =
      if (x < s.maxWidth ∧ y < s.maxHeight) ∧ t.covers x y = true then t.dot y
      else s.pixel x y :=
  s.pixel_paintPatch t.patch x y

variable (strips : List Strip)

theorem paintAll_patches : s.paintAll strips = s.paintPatches (strips.map Strip.patch) := by
  rw [paintPatches, List.foldl_map]
  rfl

theorem paintAll_bound :
    (s.paintAll strips).maxWidth = s.maxWidth ∧ (s.paintAll strips).maxHeight = s.maxHeight := by
  rw [paintAll_patches]
  exact s.paintPatches_bound _

/-- Of the strips that cover a dot inside the bound, the last one decides its colour. -/
theorem pixel_paintAll (x y : Nat) :
    (s.paintAll strips).pixel x y =
      if x < s.maxWidth ∧ y < s.maxHeight then
        ((strips.filter (Strip.covers x y)).getLast?.map (Strip.dot y)).getD (s.pixel x y)
      else s.pixel x y := by
  rw [paintAll_patches, pixel_paintPatches, List.filter_map, List.getLast?_map, Option.map_map]
  rfl

theorem extentY_paintAll :
    (s.paintAll strips).extentY = (strips.map Strip.bottom).foldl max s.extentY := by
  rw [paintAll_patches, extentY_paintPatches, List.map_map]
  rfl

theorem allocatedWidth_paintAll : (s.paintAll strips).allocatedWidth =
    ((strips.filter (Strip.touches s.maxWidth s.maxHeight)).map (·.x + 1)).foldl max
      s.allocatedWidth := by
  have touches : Patch.meets s.maxWidth s.maxHeight ∘ Strip.patch =
      Strip.touches s.maxWidth s.maxHeight := funext (Strip.meets_patch s.maxWidth s.maxHeight)
  rw [paintAll_patches, allocatedWidth_paintPatches, List.filter_map, touches, List.map_map]
  rfl

/-! ### Counting and reading back -/

theorem count_extract (column : Column) (height : Nat) :
    (column.extract 0 height).count true =
      ∑ y ∈ Finset.range height, if column.getD y false = true then 1 else 0 := by
  rw [← Array.count_toList, Array.toList_extract, List.extract_eq_take_drop, List.drop_zero,
    Nat.sub_zero]
  induction height with
  | zero => rfl
  | succ height ih =>
      rw [List.take_add_one, List.count_append, ih, Finset.sum_range_succ, Array.getD_eq_getD_getElem?,
        Array.getElem?_toList]
      cases column[height]? with
      | none => rfl
      | some dot => cases dot <;> rfl

theorem foldl_extract (columns : Array Column) (weight : Column → Nat) (empty : weight #[] = 0)
    (width : Nat) : (columns.extract 0 width).foldl (fun total column => total + weight column) 0 =
      ∑ x ∈ Finset.range width, weight (columns.getD x #[]) := by
  rw [← Array.foldl_toList, Array.toList_extract, List.extract_eq_take_drop, List.drop_zero,
    Nat.sub_zero]
  induction width with
  | zero => rfl
  | succ width ih =>
      rw [List.take_add_one, List.foldl_append, ih, Finset.sum_range_succ,
        Array.getD_eq_getD_getElem?, Array.getElem?_toList]
      cases columns[width]? with
      | none => exact congrArg (_ + ·) empty.symm
      | some column => rfl

theorem countBlack_eq (width height : Nat) : s.countBlack width height =
    ((Finset.range width ×ˢ Finset.range height).filter
      fun dot => s.pixel dot.1 dot.2 = true).card := by
  rw [Finset.card_filter, Finset.sum_product, countBlack,
    foldl_extract _ (fun column => (column.extract 0 height).count true) (by simp)]
  refine Finset.sum_congr rfl fun x _ => ?_
  rw [count_extract]
  simp only [pixel_eq]
  rfl

theorem shiftIn_toNat (packed : UInt8) (black : Bool) :
    (packed * 2 + black.toUInt8).toNat = (2 * packed.toNat + black.toNat) % 2 ^ 8 := by
  cases black <;> simp [UInt8.toNat_add, UInt8.toNat_mul, Bool.toUInt8, Nat.mul_comm]

/-- A dot that is shifted in becomes the lowest bit and moves the others up. -/
theorem shiftIn_testBit (packed : UInt8) (black : Bool) {bit : Nat} (h : bit < 8) :
    (packed * 2 + black.toUInt8).toNat.testBit bit =
      if bit = 0 then black else packed.toNat.testBit (bit - 1) := by
  rw [shiftIn_toNat, Nat.testBit_mod_two_pow, decide_eq_true h, Bool.true_and]
  cases bit with
  | zero => cases black <;> simp [Nat.testBit_zero]
  | succ bit =>
      have half : (2 * packed.toNat + black.toNat) / 2 = packed.toNat := by
        have := black.toNat_le
        omega
      rw [Nat.testBit_succ, half, if_neg (Nat.succ_ne_zero bit), Nat.add_sub_cancel]

theorem foldl_shiftIn_testBit (dots : Nat → Bool) {n row : Nat} (hn : n ≤ 8) (h : row < n) :
    ((List.range n).foldl (fun packed row => packed * 2 + (dots row).toUInt8) 0).toNat.testBit
      (n - 1 - row) = dots row := by
  induction n with
  | zero => exact absurd h (Nat.not_lt_zero row)
  | succ n ih =>
      rw [List.range_succ, List.foldl_append, List.foldl_cons, List.foldl_nil,
        shiftIn_testBit _ _ (by omega)]
      by_cases last : row = n
      · rw [if_pos (by omega), last]
      · rw [if_neg (by omega), ← ih (by omega) (by omega)]
        congr 1
        omega

/-- A strip that is read back shows its top dot in the highest bit. -/
theorem strip_testBit (x y : UInt64) {row : Nat} (h : row < stripHeight) :
    (s.strip x y).toNat.testBit (7 - row) = s.pixel x.toNat ((y.toNat + row) % 2 ^ 64) := by
  have below : (y + row.toUInt64).toNat = (y.toNat + row) % 2 ^ 64 := by
    have hrow : row.toUInt64.toNat = row :=
      Nat.mod_eq_of_lt (h.trans (by decide : stripHeight < 2 ^ 64))
    rw [UInt64.toNat_add, hrow]
  rw [← below]
  exact foldl_shiftIn_testBit (fun row => s.pixel x.toNat (y + row.toUInt64).toNat) (Nat.le_refl 8) h

theorem blank_pixel (maxWidth maxHeight x y : Nat) :
    (blank maxWidth maxHeight).pixel x y = false := by
  simp [pixel, blank]

theorem pixel_blank_paintPatches (maxWidth maxHeight x y : Nat) :
    ((blank maxWidth maxHeight).paintPatches patches).pixel x y = true ↔ x < maxWidth ∧ y < maxHeight ∧
      ∃ p, (patches.filter (Patch.covers x y)).getLast? = some p ∧ p.dot y = true := by
  rw [pixel_paintPatches, blank_pixel]
  change (if x < maxWidth ∧ y < maxHeight then _ else _) = true ↔ _
  by_cases inside : x < maxWidth ∧ y < maxHeight
  · rw [if_pos inside, ← and_assoc, and_iff_right inside]
    cases (patches.filter (Patch.covers x y)).getLast? with
    | none => simp
    | some p => simp
  · rw [if_neg inside]
    exact iff_of_false Bool.false_ne_true fun h => inside ⟨h.1, h.2.1⟩

end Surface

/-! ### Calls -/

/-- A strip to be painted, its place in machine words. -/
structure PaintCall where
  x : UInt64
  y : UInt64
  dots : UInt8
  deriving Repr, DecidableEq

namespace PaintCall

def strip (c : PaintCall) : Strip := ⟨c.x.toNat, c.y.toNat, c.dots⟩

/-- What the call paints. Behind the last row the lower edge starts again at zero. -/
def patch (c : PaintCall) : Patch :=
  ⟨c.x.toNat, c.y.toNat, (c.y.toNat + stripHeight) % 2 ^ 64, c.dots⟩

theorem patch_eq_strip (c : PaintCall) (h : c.y.toNat + stripHeight < 2 ^ 64) :
    c.patch = c.strip.patch := by
  rw [patch, Nat.mod_eq_of_lt h]
  rfl

end PaintCall

namespace Surface

/-- Makes one call after the other, and collects what each of them returns. -/
def paintCalls : List PaintCall → Surface → Surface × List Bool
  | [], s => (s, [])
  | c :: calls, s =>
    let (painted, whole) := s.paintAt c.x c.y c.dots
    let (last, told) := paintCalls calls painted
    (last, whole :: told)

theorem paintAt_eq (s : Surface) (c : PaintCall) : s.paintAt c.x c.y c.dots = s.paintPatch c.patch := by
  rw [paintAt, UInt64.toNat_add]
  rfl

theorem paintCalls_eq (calls : List PaintCall) (s : Surface) : s.paintCalls calls =
    (s.paintPatches (calls.map PaintCall.patch),
      (calls.map PaintCall.patch).map (Patch.fits s.maxWidth s.maxHeight)) := by
  induction calls generalizing s with
  | nil => rfl
  | cons c calls ih =>
      have told : (s.paintPatch c.patch).2 = c.patch.fits s.maxWidth s.maxHeight := by
        rw [paintPatch_eq]
      obtain ⟨hw, hh⟩ := s.paintPatch_bound c.patch
      rw [paintCalls, paintAt_eq]
      simp only [ih, hw, hh, told]
      rfl

/-- A surface is the bitmap in which every dot has the colour of the last strip written to it. It
counts the strips that did not fit, and its extents are the greatest of all strips. The lower edge of a
strip is a machine word: for strips that end above the last row it is the row below them. -/
theorem last_write_wins (maxWidth maxHeight : Nat) (calls : List PaintCall) :
    let s := ((blank maxWidth maxHeight).paintCalls calls).1
    let told := ((blank maxWidth maxHeight).paintCalls calls).2
    let patches := calls.map PaintCall.patch
    (∀ c ∈ calls, c.y.toNat + stripHeight < 2 ^ 64 → c.patch = c.strip.patch ∧
      (c.patch.meets maxWidth maxHeight = true ↔ c.x.toNat < maxWidth ∧ c.y.toNat < maxHeight)) ∧
    (∀ x y, s.pixel x y = true ↔ x < maxWidth ∧ y < maxHeight ∧
      ∃ p, (patches.filter (Patch.covers x y)).getLast? = some p ∧ p.dot y = true) ∧
    (∀ x y row, row < stripHeight →
      (s.strip x y).toNat.testBit (7 - row) = s.pixel x.toNat ((y.toNat + row) % 2 ^ 64)) ∧
    told = patches.map (fun p => decide (p.x < maxWidth ∧ p.bottom ≤ maxHeight)) ∧
    s.clipped = told.count false ∧
    s.extentY = (patches.map Patch.bottom).max?.getD 0 ∧
    s.allocatedWidth =
      ((patches.filter (Patch.meets maxWidth maxHeight)).map (·.x + 1)).max?.getD 0 ∧
    ∀ width height, s.countBlack width height =
      ((Finset.range width ×ˢ Finset.range height).filter
        fun dot => s.pixel dot.1 dot.2 = true).card := by
  rw [paintCalls_eq]
  intro s told patches
  refine ⟨?words, pixel_blank_paintPatches patches maxWidth maxHeight,
    fun x y row h => strip_testBit _ x y h, ?answers, ?clipped, ?extent, ?width, countBlack_eq _⟩
  case words =>
    intro c _ below
    rw [c.patch_eq_strip below, Strip.meets_patch, Strip.touches, Bool.and_eq_true, decide_eq_true_eq,
      decide_eq_true_eq]
    exact ⟨rfl, Iff.rfl⟩
  case answers => exact List.map_congr_left fun p _ => (Bool.decide_and _ _).symm
  case clipped => exact (clipped_paintPatches _ patches).trans (Nat.zero_add _)
  case extent => exact (extentY_paintPatches _ patches).trans (foldl_max_eq _)
  case width => exact (allocatedWidth_paintPatches _ patches).trans (foldl_max_eq _)

/-- A strip on the last rows is taken for one that ends at the top of the surface: it is said to be drawn,
is not counted as clipped and leaves the lower edge at zero. -/
theorem lastRows_told_whole :
    let c : PaintCall := ⟨0, 18446744073709551608, 0xff⟩
    let (s, told) := (blank 4 8).paintCalls [c]
    ¬ c.y.toNat + stripHeight ≤ 8 ∧ told = [true] ∧ s.clipped = 0 ∧
      s.extentY ≠ c.y.toNat + stripHeight ∧ s.allocatedWidth = 1 ∧ ¬ c.y.toNat < 8 := by
  decide

end Surface
end LabelStream
