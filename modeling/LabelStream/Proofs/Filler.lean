import LabelStream.Proofs.Clipping
import LabelStream.Proofs.Crop

/-! What filler does to a picture. With and without filler a decode moves the same pen and paints the
same data in the same order, so filler shows only where a strip of it was painted, and it reaches at most
one strip further down. -/
namespace LabelStream

def Options.filled (filler : Bool) (o : Options) : Options := { o with drawFiller := filler }

namespace Stroke

def filler? : Stroke → Option Strip
  | strip t true => some t
  | strip _ false | place _ | feed _ | margin | top | compress => none

def isStrip (k : Stroke) : Bool := k.strip?.isSome

theorem filler?_eq_some {k : Stroke} {t : Strip} : k.filler? = some t ↔ k = strip t true := by
  rcases k with _ | _ | _ | _ | _ | ⟨u, _ | _⟩ <;> simp [filler?]

end Stroke

def fillerStrips (strokes : List Stroke) : List Strip := strokes.filterMap Stroke.filler?

theorem fillerStrips_append (strokes more : List Stroke) :
    fillerStrips (strokes ++ more) = fillerStrips strokes ++ fillerStrips more := List.filterMap_append

theorem mem_fillerStrips {strokes : List Stroke} {t : Strip} :
    t ∈ fillerStrips strokes ↔ .strip t true ∈ strokes := by
  simp only [fillerStrips, List.mem_filterMap, Stroke.filler?_eq_some, exists_eq_right]

/-- Every strip is data or filler. -/
theorem mem_strips {strokes : List Stroke} {t : Strip} :
    t ∈ strips strokes ↔ t ∈ dataStrips strokes ∨ t ∈ fillerStrips strokes := by
  have either : ∀ k : Stroke, k.strip? = some t ↔ k = .strip t false ∨ k = .strip t true := by
    intro k
    rcases k with _ | _ | _ | _ | _ | ⟨u, _ | _⟩ <;> simp [Stroke.strip?]
  rw [mem_dataStrips, mem_fillerStrips]
  simp only [strips, List.mem_filterMap, either, and_or_left, exists_or, exists_eq_right]

/-- Where no filler is painted only data counts. -/
theorem filter_strips {strokes : List Stroke} {p : Strip → Bool}
    (h : ∀ t ∈ fillerStrips strokes, p t = false) :
    (strips strokes).filter p = (dataStrips strokes).filter p := by
  induction strokes with
  | nil => rfl
  | cons k strokes ih =>
      rw [← List.singleton_append, fillerStrips_append] at h
      have hrest := ih fun t ht => h t (List.mem_append_right _ ht)
      rw [← List.singleton_append, strips_append, dataStrips_append, List.filter_append,
        List.filter_append, hrest]
      congr 1
      rcases k with _ | _ | _ | _ | _ | ⟨t, _ | _⟩
      case strip.true =>
        have hp := h t (List.mem_append_left _ List.mem_cons_self)
        simp [strips, dataStrips, Stroke.strip?, Stroke.data?, hp]
      all_goals rfl

namespace Bar

def pieces (b : Bar) : List Strip :=
  b.dots.zipIdx.map fun (dots, i) => ⟨b.x, b.y + stripHeight * i, dots⟩

theorem strokes_eq (b : Bar) : b.strokes = b.pieces.map (.strip · b.filler) := by
  rw [pieces, List.map_map]
  rfl

theorem mem_strokes {b : Bar} {t : Strip} {filler : Bool} :
    .strip t filler ∈ b.strokes ↔ b.filler = filler ∧ t ∈ b.pieces := by
  rw [strokes_eq, List.mem_map]
  constructor
  · rintro ⟨t', ht, h⟩
    cases h
    exact ⟨rfl, ht⟩
  · rintro ⟨rfl, ht⟩
    exact ⟨t, ht, rfl⟩

theorem strips_strokes (b : Bar) : strips b.strokes = b.pieces := by
  rw [strips, strokes_eq, List.filterMap_map]
  exact List.filterMap_some

theorem dataStrips_strokes (b : Bar) :
    dataStrips b.strokes = if b.filler then [] else b.pieces := by
  rw [dataStrips, strokes_eq, List.filterMap_map]
  cases b.filler with
  | false => exact List.filterMap_some
  | true => exact List.filterMap_none _

theorem flatMap_data (bars : List Bar) : (bars.filter (!·.filler)).flatMap pieces =
    bars.flatMap fun b => if b.filler then [] else b.pieces := by
  induction bars with
  | nil => rfl
  | cons b bars ih =>
      rw [List.flatMap_cons, ← ih, List.filter_cons]
      cases b.filler with
      | false => exact List.flatMap_cons
      | true => rfl

theorem mem_pieces {b : Bar} {t : Strip} : t ∈ b.pieces ↔
    ∃ i dots, b.dots[i]? = some dots ∧ t = ⟨b.x, b.y + stripHeight * i, dots⟩ := by
  simp only [pieces, List.mem_map, Prod.exists, List.mem_zipIdx_iff_getElem?]
  constructor
  · rintro ⟨dots, i, hi, rfl⟩
    exact ⟨i, dots, hi, rfl⟩
  · rintro ⟨i, dots, hi, rfl⟩
    exact ⟨dots, i, hi, rfl⟩

theorem piece_bottom_le {b : Bar} {t : Strip} (h : t ∈ b.pieces) :
    t.bottom ≤ b.y + stripHeight * b.dots.length := by
  obtain ⟨i, dots, hi, rfl⟩ := mem_pieces.mp h
  have hlt := (List.getElem?_eq_some_iff.mp hi).1
  simp only [Strip.bottom, stripHeight]
  omega

/-- The dot lies in the column that the bar draws, between its ends. -/
def Covers (x y : Nat) (b : Bar) : Prop :=
  b.x = x ∧ b.y ≤ y ∧ y < b.y + stripHeight * b.dots.length

theorem covers_iff (b : Bar) (x y : Nat) :
    (∃ t ∈ b.pieces, t.covers x y = true) ↔ b.Covers x y := by
  simp only [mem_pieces, Strip.covers_iff, Strip.bottom, Covers, stripHeight]
  constructor
  · rintro ⟨_, ⟨i, dots, hi, rfl⟩, hx, hy, hb⟩
    have hlt := (List.getElem?_eq_some_iff.mp hi).1
    simp only at hx hy hb
    exact ⟨hx, by omega, by omega⟩
  · rintro ⟨hx, hy, hb⟩
    have hlt : (y - b.y) / 8 < b.dots.length := by omega
    refine ⟨_, ⟨(y - b.y) / 8, _, List.getElem?_eq_getElem hlt, rfl⟩, hx, ?_, ?_⟩
    · change b.y + 8 * ((y - b.y) / 8) ≤ y
      omega
    · change y < b.y + 8 * ((y - b.y) / 8) + 8
      omega

end Bar

section Bars

variable (o : Options)

theorem strips_barStrokes (bars : List Bar) :
    strips (barStrokes (o.filled false) bars) = dataStrips (barStrokes (o.filled true) bars) := by
  have plain : strips (barStrokes (o.filled false) bars) =
      (bars.filter (!·.filler)).flatMap fun b => strips b.strokes := List.filterMap_flatMap
  have marked : dataStrips (barStrokes (o.filled true) bars) =
      bars.flatMap fun b => dataStrips b.strokes := List.filterMap_flatMap
  rw [plain, marked]
  simp only [Bar.strips_strokes, Bar.dataStrips_strokes]
  exact Bar.flatMap_data bars

theorem barStrokes_append (bars more : List Bar) :
    barStrokes o (bars ++ more) = barStrokes o bars ++ barStrokes o more := by
  unfold barStrokes Decoder.visibleBars
  split
  · exact List.flatMap_append
  · rw [List.filter_append, List.flatMap_append]

theorem barStrokes_data (x y : Nat) (dots : Octets) :
    barStrokes o [⟨x, y, dots, false⟩] = Bar.strokes ⟨x, y, dots, false⟩ := by
  rw [barStrokes, Sheet.visibleBars_cons, Sheet.visibleBars_nil]
  exact List.append_nil _

theorem filter_barStrokes (bars : List Bar) :
    (barStrokes o bars).filter Stroke.isStrip = barStrokes o bars := by
  refine List.filter_eq_self.mpr fun k hk => ?_
  obtain ⟨b, _, hb⟩ := List.mem_flatMap.mp hk
  obtain ⟨t, _, rfl⟩ := List.mem_map.mp hb
  rfl

theorem filter_bitImageStrokes (x y : Nat) (dots : Octets) :
    (bitImageStrokes o x y dots).filter Stroke.isStrip = barStrokes o (bitImageBars [] x y dots) := by
  fun_induction bitImageStrokes o x y dots with
  | case1 x => exact (barStrokes_nil o).symm
  | case2 x a =>
      rw [← barStrokes_data o]
      exact filter_barStrokes o _
  | case3 x a b =>
      rw [← barStrokes_data o]
      exact filter_barStrokes o _
  | case4 x a b c rest ih =>
      have hbars := Sheet.bitImageBars_triple x y ⟨a, b, c⟩ rest
      change bitImageBars [] x y (a :: b :: c :: rest) = _ at hbars
      have hplace : ¬ (Stroke.place (x + 1)).isStrip = true := Bool.false_ne_true
      rw [hbars, barStrokes_append, List.filter_append, filter_barStrokes,
        List.filter_cons_of_neg hplace, ih]

end Bars

namespace Command

variable (o : Options) (pen : Pen) (command : Command)

/-- The strips of a command are those of its bars, wherever the pen is moved between them. -/
theorem filter_strokes :
    (command.strokes o pen).filter Stroke.isStrip = barStrokes o (command.bars o.profile pen) := by
  have column : ∀ (bars : List Bar) (x : Nat),
      (barStrokes o bars ++ [Stroke.place x]).filter Stroke.isStrip = barStrokes o bars := by
    intro bars x
    rw [List.filter_append, filter_barStrokes]
    exact List.append_nil _
  have none := (barStrokes_nil o).symm
  cases command with
  | bitImage mode columns dots => exact filter_bitImageStrokes o pen.xpos pen.ypos dots
  | rasterLine form length line => exact column _ _
  | blankLine => exact column _ _
  | setting code operands =>
      simp only [strokes]
      split <;> exact none
  | compression kind =>
      simp only [strokes]
      split <;> exact none
  | _ => exact none

theorem filterMap_strokes {f : Stroke → Option Strip} (h : ∀ k, k.strip? = none → f k = none) :
    (command.strokes o pen).filterMap f = (barStrokes o (command.bars o.profile pen)).filterMap f := by
  rw [← command.filter_strokes, List.filterMap_filter]
  refine List.filterMap_congr fun k _ => ?_
  cases hk : k.strip? with
  | none => rw [h k hk, Stroke.isStrip, hk]; rfl
  | some t => rw [Stroke.isStrip, hk]; rfl

/-- Without filler a command paints the data that it paints with filler. -/
theorem strips_plain :
    strips (command.strokes (o.filled false) pen) =
      dataStrips (command.strokes (o.filled true) pen) := by
  have data : ∀ k : Stroke, k.strip? = none → k.data? = none := by
    intro k hk
    cases k with
    | strip t filler => cases hk
    | _ => rfl
  rw [strips, dataStrips, filterMap_strokes _ _ _ fun _ => id, filterMap_strokes _ _ _ data]
  exact strips_barStrokes o _

variable {o pen command}

theorem mem_strokes {t : Strip} {filler : Bool} :
    .strip t filler ∈ command.strokes (o.filled true) pen ↔
      ∃ b ∈ command.bars o.profile pen, b.filler = filler ∧ t ∈ b.pieces := by
  have bars : (command.strokes (o.filled true) pen).filter Stroke.isStrip =
      (command.bars o.profile pen).flatMap Bar.strokes := command.filter_strokes (o.filled true) pen
  calc .strip t filler ∈ command.strokes (o.filled true) pen
      ↔ .strip t filler ∈ (command.strokes (o.filled true) pen).filter Stroke.isStrip := by
        rw [List.mem_filter]
        exact (and_iff_left rfl).symm
    _ ↔ ∃ b ∈ command.bars o.profile pen, .strip t filler ∈ b.strokes := by
        rw [bars, List.mem_flatMap]
    _ ↔ ∃ b ∈ command.bars o.profile pen, b.filler = filler ∧ t ∈ b.pieces := by
        simp only [Bar.mem_strokes]

end Command

/-- The bars of filler that come with the whole column of a bit image `column` steps right of `x`. -/
def IsColumnFiller (x y column : Nat) (bar : Bar) : Prop :=
  bar = ⟨x + column + 1, y, List.replicate 3 bitImageFiller, true⟩ ∨
    bar = ⟨x + column, y + 3 * stripHeight, [bitImageFiller], true⟩

theorem mem_cons_data {drawn : List Bar} {x y : Nat} {dots : Octets} {bar : Bar} :
    bar ∈ ⟨x, y, dots, false⟩ :: drawn ∧ bar.filler = true ↔ bar ∈ drawn ∧ bar.filler = true := by
  rw [List.mem_cons, or_and_right, or_iff_right]
  rintro ⟨rfl, hf⟩
  exact Bool.false_ne_true hf

theorem no_column (dots : Octets) (h : dots.length < 3) (p : Nat → Prop) :
    ¬ ∃ column < dots.length / 3, p column := by
  rintro ⟨column, hc, _⟩
  omega

theorem mem_bitImageBars_filler {drawn : List Bar} {x y : Nat} {dots : Octets} {bar : Bar} :
    bar ∈ bitImageBars drawn x y dots ∧ bar.filler = true ↔ (bar ∈ drawn ∧ bar.filler = true) ∨
      ∃ column < dots.length / 3, IsColumnFiller x y column bar := by
  fun_induction bitImageBars drawn x y dots with
  | case1 drawn x => rw [or_iff_left (no_column [] (by decide : 0 < 3) _), List.mem_reverse]
  | case2 drawn x a =>
      rw [or_iff_left (no_column [a] (by decide : 1 < 3) _), List.mem_reverse, mem_cons_data]
  | case3 drawn x a b =>
      rw [or_iff_left (no_column [a, b] (by decide : 2 < 3) _), List.mem_reverse, mem_cons_data]
  | case4 drawn x a b c rest ih =>
      have hl : (a :: b :: c :: rest).length / 3 = rest.length / 3 + 1 :=
        Nat.add_div_right rest.length (by decide : 0 < 3)
      have columns : (∃ column < (a :: b :: c :: rest).length / 3, IsColumnFiller x y column bar) ↔
          IsColumnFiller x y 0 bar ∨
            ∃ column < rest.length / 3, IsColumnFiller (x + 1) y column bar := by
        rw [hl, Nat.exists_lt_succ_left]
        simp only [IsColumnFiller, Nat.add_right_comm x 1, Nat.add_assoc]
      rw [ih, columns, ← or_assoc]
      apply or_congr_left
      constructor
      · rintro ⟨hb, hf⟩
        rcases List.mem_cons.mp hb with hb | hb
        · exact .inr (.inr hb)
        rcases List.mem_cons.mp hb with hb | hb
        · exact .inr (.inl hb)
        · exact .inl (mem_cons_data.mp ⟨hb, hf⟩)
      · rintro (⟨hb, hf⟩ | rfl | rfl)
        · exact ⟨List.mem_append_right [_, _, _] hb, hf⟩
        · exact ⟨List.mem_cons_of_mem _ List.mem_cons_self, rfl⟩
        · exact ⟨List.mem_cons_self, rfl⟩

/-- The bars cover the dot with filler. -/
def Fills (x y : Nat) (bars : List Bar) : Prop := ∃ b ∈ bars, b.filler = true ∧ b.Covers x y

theorem fills_beside {x y a n : Nat} {dots : UInt8} {data : Octets} :
    Fills x y [⟨a, 0, data, false⟩, ⟨a + 1, 0, List.replicate n dots, true⟩] ↔
      x = a + 1 ∧ y < stripHeight * n := by
  have covers : Bar.Covers x y ⟨a + 1, 0, List.replicate n dots, true⟩ ↔
      a + 1 = x ∧ 0 ≤ y ∧ y < 0 + stripHeight * (List.replicate n dots).length := Iff.rfl
  rw [List.length_replicate, Nat.zero_add, eq_comm] at covers
  simp only [Fills, List.mem_cons, List.not_mem_nil, or_false, exists_eq_or_imp, exists_eq_left,
    Bool.false_eq_true, false_and, false_or, true_and, covers, Nat.zero_le]

theorem fills_bitImage {x y a top : Nat} {dots : Octets} :
    Fills x y (bitImageBars [] a top dots) ↔ ∃ column < dots.length / 3,
      (x = a + column + 1 ∧ top ≤ y ∧ y < top + 3 * stripHeight) ∨
        (x = a + column ∧ top + 3 * stripHeight ≤ y ∧ y < top + 4 * stripHeight) := by
  have beside : ∀ column,
      Bar.Covers x y ⟨a + column + 1, top, List.replicate 3 bitImageFiller, true⟩ ↔
        x = a + column + 1 ∧ top ≤ y ∧ y < top + 3 * stripHeight := fun _ => and_congr_left' eq_comm
  have below : ∀ column,
      Bar.Covers x y ⟨a + column, top + 3 * stripHeight, [bitImageFiller], true⟩ ↔
        x = a + column ∧ top + 3 * stripHeight ≤ y ∧ y < top + 4 * stripHeight :=
    fun _ => and_congr_left' eq_comm
  constructor
  · rintro ⟨b, hb, hf, covers⟩
    obtain ⟨hb, _⟩ | ⟨column, hc, rfl | rfl⟩ := mem_bitImageBars_filler.mp ⟨hb, hf⟩
    · cases hb
    · exact ⟨column, hc, .inl ((beside column).mp covers)⟩
    · exact ⟨column, hc, .inr ((below column).mp covers)⟩
  · rintro ⟨column, hc, covers | covers⟩
    · obtain ⟨hb, hf⟩ := mem_bitImageBars_filler.mpr (.inr ⟨column, hc, .inl rfl⟩)
      exact ⟨_, hb, hf, (beside column).mpr covers⟩
    · obtain ⟨hb, hf⟩ := mem_bitImageBars_filler.mpr (.inr ⟨column, hc, .inr rfl⟩)
      exact ⟨_, hb, hf, (below column).mpr covers⟩

/-- No filler reaches further down than a strip below some data. -/
def Shallow (bars : List Bar) : Prop :=
  ∀ b ∈ bars, b.filler = true → ∀ t ∈ b.pieces,
    ∃ b' ∈ bars, b'.filler = false ∧ ∃ t' ∈ b'.pieces, t.bottom ≤ t'.bottom + stripHeight

theorem shallow_beside {x n : Nat} {dots : UInt8} {data : Octets} (h : n ≤ data.length) :
    Shallow [⟨x, 0, data, false⟩, ⟨x + 1, 0, List.replicate n dots, true⟩] := by
  simp only [Shallow, List.forall_mem_cons]
  refine ⟨nofun, fun _ t ht => ?_, nofun⟩
  obtain ⟨i, _, hi, rfl⟩ := Bar.mem_pieces.mp ht
  have hlt : i < data.length := by
    have hn := (List.getElem?_eq_some_iff.mp hi).1
    rw [List.length_replicate] at hn
    exact Nat.lt_of_lt_of_le hn h
  -- The strip of data in the same row ends where this one does.
  exact ⟨_, List.mem_cons_self, rfl, _, Bar.mem_pieces.mpr ⟨i, _, List.getElem?_eq_getElem hlt, rfl⟩,
    Nat.le_add_right _ _⟩

theorem shallow_bitImage (x y : Nat) (dots : Octets) : Shallow (bitImageBars [] x y dots) := by
  intro b hb hf t ht
  obtain ⟨hb, _⟩ | ⟨column, hc, filler⟩ := mem_bitImageBars_filler.mp ⟨hb, hf⟩
  · cases hb
  have reach : t.bottom ≤ y + 3 * stripHeight + stripHeight := by
    have ht := Bar.piece_bottom_le ht
    obtain rfl | rfl := filler
    · exact Nat.le_trans ht (Nat.le_add_right _ _)
    · exact ht
  have long : 3 ≤ dots.length := by omega
  obtain ⟨first, rest, rfl⟩ : ∃ (first : Builder.Triple) (rest : Octets),
      dots = first.octets ++ rest := by
    rcases dots with _ | ⟨a, _ | ⟨b, _ | ⟨c, rest⟩⟩⟩
    · exact absurd long (by decide : ¬ 3 ≤ 0)
    · exact absurd long (by decide : ¬ 3 ≤ 1)
    · exact absurd long (by decide : ¬ 3 ≤ 2)
    · exact ⟨⟨a, b, c⟩, rest, rfl⟩
  refine ⟨⟨x, y, first.octets, false⟩, ?_, rfl, ⟨x, y + stripHeight * 2, first.bottom⟩, ?_, reach⟩
  · rw [Sheet.bitImageBars_triple]
    exact List.mem_cons_self
  · exact Bar.mem_pieces.mpr ⟨2, _, rfl, rfl⟩

theorem Command.bars_shallow (model : Model) (pen : Pen) (command : Command) :
    Shallow (command.bars model.profile pen) := by
  have deep : blankLineFillerStrips ≤ model.profile.blankLineStrips := by
    cases model <;> decide
  cases command with
  | rasterLine form length line => exact shallow_beside (Nat.le_refl line.length)
  | blankLine =>
      refine shallow_beside ?_
      rw [List.length_replicate]
      exact deep
  | bitImage mode columns dots => exact shallow_bitImage pen.xpos pen.ypos dots
  | _ => exact fun _ hb => absurd hb List.not_mem_nil

theorem exists_mem_swap {α β : Type} {items : List α} {r : α → β → Prop} {p : β → Prop} :
    (∃ b, (∃ a ∈ items, r a b) ∧ p b) ↔ ∃ a ∈ items, ∃ b, r a b ∧ p b := by
  constructor
  · rintro ⟨b, ⟨a, ha, hr⟩, hp⟩
    exact ⟨a, ha, b, hr, hp⟩
  · rintro ⟨a, ha, b, hr, hp⟩
    exact ⟨b, ⟨a, ha, hr⟩, hp⟩

/-- A command that is performed, and the pen before it. -/
structure Act where
  pen : Pen
  command : Command

namespace Act

def strokes (o : Options) (act : Act) : List Stroke := act.command.strokes o act.pen

/-- The dot lies where a command marks its columns: right of a line as far down as that is marked, and
right of and below a whole column of a bit image. -/
def Marks (x y : Nat) : Act → Prop
  | ⟨pen, .rasterLine _ _ line⟩ => x = pen.xpos + 1 ∧ y < stripHeight * line.length
  | ⟨pen, .blankLine⟩ => x = pen.xpos + 1 ∧ y < stripHeight * blankLineFillerStrips
  | ⟨pen, .bitImage _ _ dots⟩ => ∃ column < dots.length / 3,
    (x = pen.xpos + column + 1 ∧ pen.ypos ≤ y ∧ y < pen.ypos + 3 * stripHeight) ∨
      (x = pen.xpos + column ∧ pen.ypos + 3 * stripHeight ≤ y ∧ y < pen.ypos + 4 * stripHeight)
  | _ => False

variable {o : Options} {act : Act}

theorem mem_fillerStrips {t : Strip} : t ∈ fillerStrips (act.strokes (o.filled true)) ↔
    ∃ b ∈ act.command.bars o.profile act.pen, b.filler = true ∧ t ∈ b.pieces := by
  rw [LabelStream.mem_fillerStrips]
  exact Command.mem_strokes

/-- A command covers with filler just the dots where it marks its columns. -/
theorem covers_iff {x y : Nat} :
    (∃ t ∈ fillerStrips (act.strokes (o.filled true)), t.covers x y = true) ↔ act.Marks x y := by
  have none : ¬ Fills x y [] := fun ⟨_, hb, _⟩ => List.not_mem_nil hb
  calc (∃ t ∈ fillerStrips (act.strokes (o.filled true)), t.covers x y = true)
      ↔ ∃ b ∈ act.command.bars o.profile act.pen,
          ∃ t, (b.filler = true ∧ t ∈ b.pieces) ∧ t.covers x y = true := by
        simp only [mem_fillerStrips]
        exact exists_mem_swap
    _ ↔ Fills x y (act.command.bars o.profile act.pen) := by
        simp only [Fills, ← Bar.covers_iff, and_assoc, exists_and_left]
    _ ↔ act.Marks x y := by
        rcases act with ⟨pen, command⟩
        cases command with
        | rasterLine form length line => exact fills_beside
        | blankLine => exact fills_beside
        | bitImage mode columns dots => exact fills_bitImage
        | _ => exact iff_of_false none id

theorem filler_shallow {t : Strip} (h : t ∈ fillerStrips (act.strokes (o.filled true))) :
    ∃ t' ∈ dataStrips (act.strokes (o.filled true)), t.bottom ≤ t'.bottom + stripHeight := by
  obtain ⟨b, hb, hf, ht⟩ := mem_fillerStrips.mp h
  obtain ⟨b', hb', hf', t', ht', hle⟩ := act.command.bars_shallow o.model act.pen b hb hf t ht
  exact ⟨t', mem_dataStrips.mpr (Command.mem_strokes.mpr ⟨b', hb', hf', ht'⟩), hle⟩

end Act

namespace Decoder

variable (o : Options)

/-- What up to `n` moves perform, a cut command with what arrived of it. -/
def acts : Nat → Decoder → List Act
  | 0, _ => []
  | n + 1, d =>
    if d.isFinished then []
    else (d.reading o).command?.toList.map (Act.mk d.pen) ++ acts n (d.advance o).1

theorem strokes_eq_acts (n : Nat) (d : Decoder) :
    d.strokes o n = (d.acts o n).flatMap (Act.strokes o) := by
  induction n generalizing d with
  | zero => rfl
  | succ n ih =>
      simp only [strokes, acts]
      split
      · rfl
      · rw [List.flatMap_append, ih, nextStrokes]
        cases (d.reading o).command? with
        | none => rfl
        | some command => exact congrArg (· ++ _) (List.append_nil _).symm

/-- Decoders abreast paint the same data, of which one marks the columns. -/
theorem Abreast.strips_strokes {marked plain : Decoder} (h : marked.Abreast plain) (n : Nat) :
    strips (plain.strokes (o.filled false) n) = dataStrips (marked.strokes (o.filled true) n) := by
  induction n generalizing marked plain with
  | zero => rfl
  | succ n ih =>
      have hnext : strips (plain.nextStrokes (o.filled false)) =
          dataStrips (marked.nextStrokes (o.filled true)) := by
        have hreading : marked.reading (o.filled false) = marked.reading (o.filled true) := rfl
        rw [← h.nextStrokes (o.filled false), Decoder.nextStrokes, Decoder.nextStrokes, hreading]
        cases (marked.reading (o.filled true)).command? with
        | none => rfl
        | some command => exact command.strips_plain o marked.pen
      have agree : (o.filled true).acceptAnyGraphicsMode = (o.filled false).acceptAnyGraphicsMode := rfl
      have hrest := ih (h.advance agree).1
      simp only [Decoder.strokes, h.isFinished]
      split
      · rfl
      · rw [strips_append, dataStrips_append, hnext, hrest]

end Decoder

namespace Session

variable (o : Options) (sink : Sink) (capture : Octets) (budgets : List Nat)

/-- The commands that were performed by the time that these budgets were spent. -/
def performances : List Act := (Decoder.opened o capture).acts o (allowance budgets)

theorem reached_abreast {o o' : Options} (agree : o.acceptAnyGraphicsMode = o'.acceptAnyGraphicsMode)
    (sink : Sink) (capture : Octets) (budgets : List Nat) :
    (reached o sink capture budgets).decoder.Abreast (reached o' sink capture budgets).decoder := by
  cases budgets with
  | nil => exact ⟨rfl, rfl, rfl, rfl⟩
  | cons budget budgets =>
      rw [reached_walk o sink capture (List.cons_ne_nil budget budgets),
        reached_walk o' sink capture (List.cons_ne_nil budget budgets)]
      exact ((Decoder.opened_abreast o o' capture).walk agree _).1

theorem history_eq_performances :
    history o capture budgets = (performances o capture budgets).flatMap (Act.strokes o) :=
  Decoder.strokes_eq_acts o _ _

theorem history_plain :
    strips (history (o.filled false) capture budgets) =
      dataStrips (history (o.filled true) capture budgets) :=
  (Decoder.opened_abreast (o.filled true) (o.filled false) capture).strips_strokes o (allowance budgets)

theorem mem_history_filler {t : Strip} :
    t ∈ fillerStrips (history (o.filled true) capture budgets) ↔
      ∃ act ∈ performances (o.filled true) capture budgets,
        t ∈ fillerStrips (act.strokes (o.filled true)) := by
  rw [history_eq_performances, fillerStrips, List.filterMap_flatMap, List.mem_flatMap]
  rfl

theorem history_filler_shallow {t : Strip}
    (h : t ∈ fillerStrips (history (o.filled true) capture budgets)) :
    ∃ t' ∈ dataStrips (history (o.filled true) capture budgets),
      t.bottom ≤ t'.bottom + stripHeight := by
  obtain ⟨act, hact, ht⟩ := (mem_history_filler o capture budgets).mp h
  obtain ⟨t', ht', hle⟩ := act.filler_shallow ht
  refine ⟨t', ?_, hle⟩
  rw [mem_dataStrips] at ht' ⊢
  rw [history_eq_performances]
  exact List.mem_flatMap.mpr ⟨act, hact, ht'⟩

theorem ymax_filled :
    let marked := (reached (o.filled true) sink capture budgets).decoder
    let plain := (reached (o.filled false) sink capture budgets).decoder
    plain.pen.ymax ≤ marked.pen.ymax ∧ marked.pen.ymax ≤ plain.pen.ymax + stripHeight := by
  intro marked plain
  have hmarked : marked.pen.ymax = _ := reached_ymax (o.filled true) sink capture budgets
  have hplain : plain.pen.ymax = _ := reached_ymax (o.filled false) sink capture budgets
  rw [history_plain] at hplain
  have reaches : ∀ {strips : List Strip} {t : Strip}, t ∈ strips →
      t.bottom ≤ (strips.map Strip.bottom).foldl max 0 := fun ht =>
    ((Bar.foldl_max_le_iff _ _ _).mp (Nat.le_refl _)).2 _ (List.mem_map_of_mem ht)
  rw [hmarked, hplain]
  refine ⟨(Bar.foldl_max_le_iff _ _ _).mpr ⟨Nat.zero_le _, ?_⟩,
    (Bar.foldl_max_le_iff _ _ _).mpr ⟨Nat.zero_le _, ?_⟩⟩
  · intro row hrow
    obtain ⟨t, ht, rfl⟩ := List.mem_map.mp hrow
    exact reaches (mem_strips_of_data ht)
  · intro row hrow
    obtain ⟨t, ht, rfl⟩ := List.mem_map.mp hrow
    rcases mem_strips.mp ht with ht | ht
    · exact Nat.le_trans (reaches ht) (Nat.le_add_right _ _)
    · obtain ⟨t', ht', hle⟩ := history_filler_shallow o capture budgets ht
      exact Nat.le_trans hle (Nat.add_le_add_right (reaches ht') stripHeight)

theorem pixel_filled {x y : Nat}
    (h : ∀ t ∈ fillerStrips (history (o.filled true) capture budgets), t.covers x y = false) :
    (reached (o.filled true) sink capture budgets).decoder.surface.pixel x y =
      (reached (o.filled false) sink capture budgets).decoder.surface.pixel x y := by
  rw [reached_surface, reached_surface, Surface.pixel_paintAll, Surface.pixel_paintAll, history_plain,
    filter_strips h]
  rfl

/-- With filler and without, a decode paints the same strips of data in the same order. The pictures
differ at most where a strip of filler was painted, which is where a command marked its columns, and
filler reaches at most one strip below all data. -/
theorem filler_cosmetic :
    (∃ budgets, ∀ filler, (decodeWithSink (o.filled filler) sink capture).decoded =
      (reached (o.filled filler) sink capture budgets).finish.1) ∧
    ∀ budgets,
      let marked := (reached (o.filled true) sink capture budgets).finish.1
      let plain := (reached (o.filled false) sink capture budgets).finish.1
      let done := history (o.filled true) capture budgets
      marked.surface = (Surface.blank o.maxWidth o.maxHeight).paintAll (strips done) ∧
      plain.surface = (Surface.blank o.maxWidth o.maxHeight).paintAll (dataStrips done) ∧
      plain.pen.ymax ≤ marked.pen.ymax ∧ marked.pen.ymax ≤ plain.pen.ymax + stripHeight ∧
      (∀ x y, marked.surface.pixel x y ≠ plain.surface.pixel x y →
        ∃ t ∈ fillerStrips done, t.covers x y = true) ∧
      ∀ x y, (∃ t ∈ fillerStrips done, t.covers x y = true) ↔
        ∃ act ∈ performances (o.filled true) capture budgets, act.Marks x y := by
  refine ⟨?ends, fun budgets => ⟨?marked, ?plain, ?least, ?most, ?differ, ?marks⟩⟩
  case ends =>
    obtain ⟨count, hf⟩ := exists_batches_finished (o.filled true) sink capture 1
    refine ⟨List.replicate count 1, fun filler => decodeWithSink_reached _ _ _ ?_⟩
    have agree : (o.filled true).acceptAnyGraphicsMode = (o.filled filler).acceptAnyGraphicsMode := rfl
    rw [← (reached_abreast agree sink capture _).isFinished]
    exact hf
  case marked => exact reached_surface (o.filled true) sink capture budgets
  case plain =>
    rw [← history_plain]
    exact reached_surface (o.filled false) sink capture budgets
  case least => exact (ymax_filled o sink capture budgets).1
  case most => exact (ymax_filled o sink capture budgets).2
  case differ =>
    intro x y hne
    by_contra uncovered
    simp only [not_exists, not_and, Bool.not_eq_true] at uncovered
    exact hne (pixel_filled o sink capture budgets uncovered)
  case marks =>
    intro x y
    simp only [mem_history_filler, ← Act.covers_iff (o := o)]
    exact exists_mem_swap

end Session

end LabelStream
