import LabelStream.Proofs.HighWater
import LabelStream.Proofs.Steering

/-! What the bound of a surface takes away. A strip outside the bound is dropped, one across its lower
edge loses rows, and each is counted; apart from that a surface shows what a larger one would show. The
strokes of a decode are the same for every bound, so decoding and cropping commute. -/
namespace LabelStream

namespace Surface

/-- The smaller surface, of the given size, shows of the larger one what lies inside its bound. -/
structure Crops (width height : Nat) (small large : Surface) : Prop where
  bound : small.maxWidth = width ∧ small.maxHeight = height
  width_le : width ≤ large.maxWidth
  height_le : height ≤ large.maxHeight
  pixel_eq : ∀ x y, small.pixel x y = (decide (x < width ∧ y < height) && large.pixel x y)
  extentY_eq : small.extentY = large.extentY
  clipped_le : large.clipped ≤ small.clipped

theorem blank_crops {width height maxWidth maxHeight : Nat} (hw : width ≤ maxWidth)
    (hh : height ≤ maxHeight) :
    Crops width height (blank width height) (blank maxWidth maxHeight) := by
  constructor
  case bound => exact ⟨rfl, rfl⟩
  case width_le => exact hw
  case height_le => exact hh
  case pixel_eq =>
    intro x y
    rw [blank_pixel, blank_pixel, Bool.and_false]
  case extentY_eq => rfl
  case clipped_le => exact Nat.le_refl 0

namespace Crops

variable {width height : Nat} {small large : Surface}

theorem fits (h : Crops width height small large) {p : Patch}
    (hf : p.fits small.maxWidth small.maxHeight = true) :
    p.fits large.maxWidth large.maxHeight = true := by
  obtain ⟨hw, hh⟩ := h.bound
  have hw' := h.width_le
  have hh' := h.height_le
  simp only [Patch.fits, hw, hh, Bool.and_eq_true, decide_eq_true_eq] at hf ⊢
  omega

theorem clipped_paintStrip (h : Crops width height small large) (t : Strip) :
    (large.paintStrip t).clipped ≤ (small.paintStrip t).clipped := by
  have hc := h.clipped_le
  rw [paintStrip_clipped, paintStrip_clipped]
  by_cases hf : t.patch.fits small.maxWidth small.maxHeight = true
  · rw [if_pos hf, if_pos (h.fits hf)]
    exact hc
  · rw [if_neg hf]
    split <;> omega

theorem pixel_paintStrip (h : Crops width height small large) (t : Strip) (x y : Nat) :
    (small.paintStrip t).pixel x y =
      (decide (x < width ∧ y < height) && (large.paintStrip t).pixel x y) := by
  obtain ⟨hw, hh⟩ := h.bound
  have hw' := h.width_le
  have hh' := h.height_le
  rw [Surface.pixel_paintStrip, Surface.pixel_paintStrip, h.pixel_eq, hw, hh]
  by_cases inside : x < width ∧ y < height
  · have inside' : x < large.maxWidth ∧ y < large.maxHeight := by omega
    simp only [inside, inside', and_self, true_and, decide_true, Bool.true_and]
  · simp only [inside, false_and, if_false, decide_false, Bool.false_and]

theorem paintStrip (h : Crops width height small large) (t : Strip) :
    Crops width height (small.paintStrip t) (large.paintStrip t) := by
  obtain ⟨hw, hh⟩ := small.paintStrip_bound t
  obtain ⟨hw', hh'⟩ := large.paintStrip_bound t
  constructor
  case bound => rw [hw, hh]; exact h.bound
  case width_le => rw [hw']; exact h.width_le
  case height_le => rw [hh']; exact h.height_le
  case pixel_eq => exact h.pixel_paintStrip t
  case extentY_eq => rw [paintStrip_extentY, paintStrip_extentY, h.extentY_eq]
  case clipped_le => exact h.clipped_paintStrip t

theorem paintAll (h : Crops width height small large) (strips : List Strip) :
    Crops width height (small.paintAll strips) (large.paintAll strips) := by
  induction strips generalizing small large with
  | nil => exact h
  | cons t strips ih => exact ih (h.paintStrip t)

end Crops

end Surface

/-- The same strokes move the same pen, whatever they are drawn on. -/
theorem Sheet.replay_pen (strokes : List Stroke) (pen : Pen) (s s' : Surface) :
    ((Sheet.mk pen s).replay strokes).pen = ((Sheet.mk pen s').replay strokes).pen := by
  induction strokes generalizing pen s s' with
  | nil => rfl
  | cons k strokes ih => cases k <;> exact ih _ _ _

theorem Command.strokes_course (o : Options) (pen : Pen) (command : Command) :
    command.strokes o pen.course = command.strokes o pen := by
  cases command <;> rfl

namespace Decoder

namespace Abreast

variable {d other : Decoder}

theorem nextStrokes (o : Options) (h : d.Abreast other) :
    d.nextStrokes o = other.nextStrokes o := by
  rw [Decoder.nextStrokes, Decoder.nextStrokes, h.reading rfl]
  cases (other.reading o).command? with
  | none => rfl
  | some command =>
      dsimp only
      rw [← command.strokes_course, h.course, command.strokes_course]

theorem strokes (o : Options) (h : d.Abreast other) (n : Nat) :
    d.strokes o n = other.strokes o n := by
  induction n generalizing d other with
  | zero => rfl
  | succ n ih =>
      simp only [Decoder.strokes, h.isFinished, h.nextStrokes o, ih (h.advance rfl).1]

end Abreast

end Decoder

namespace Decoder.Abreast

variable {d other : Decoder}

/-- Decoders abreast that hold the same pen differ in their pictures alone. -/
theorem eq_of_pen (h : d.Abreast other) (hpen : d.pen = other.pen) :
    d = { other with surface := d.surface } := by
  rcases d with ⟨phase, cursor, opcodes, pen, surface⟩
  obtain ⟨hphase, hcursor, hopcodes, _⟩ := h
  simp only at hphase hcursor hopcodes hpen
  rw [hphase, hcursor, hopcodes, hpen]

theorem decoded_eq (h : d.Abreast other) (hpen : d.pen = other.pen) (trace : Option (List Event)) :
    d.decoded trace = { other.decoded trace with surface := d.surface } := by
  rw [h.eq_of_pen hpen]
  rfl

theorem summary_eq (h : d.Abreast other) (hpen : d.pen = other.pen) :
    d.summary = other.summary := by
  rw [h.eq_of_pen hpen]
  rfl

theorem walk_crops {o o' : Options} (alike : o.Alike o') {width height : Nat} (h : d.Abreast other)
    (hpen : d.pen = other.pen) (placed : other.pen.Placed)
    (crops : Surface.Crops width height d.surface other.surface) (n : Nat) :
    (d.walk o n).1.pen = (other.walk o' n).1.pen ∧
      Surface.Crops width height (d.walk o n).1.surface (other.walk o' n).1.surface := by
  have placed' : d.pen.Placed := by rwa [hpen]
  have hd : (d.walk o' n).1.sheet = d.sheet.replay (other.strokes o' n) := by
    rw [walk_replay o' placed', h.strokes]
  have hother : (other.walk o' n).1.sheet = other.sheet.replay (other.strokes o' n) :=
    walk_replay o' placed n
  -- One list of strokes is drawn on both surfaces.
  rw [walk_alike alike]
  constructor
  · calc (d.walk o' n).1.pen
        = ((Sheet.mk d.pen d.surface).replay (other.strokes o' n)).pen := congrArg Sheet.pen hd
      _ = ((Sheet.mk d.pen other.surface).replay (other.strokes o' n)).pen :=
        Sheet.replay_pen _ _ _ _
      _ = (other.walk o' n).1.pen := by
        rw [hpen]
        exact (congrArg Sheet.pen hother).symm
  · rw [walk_surface o' placed', walk_surface o' placed, h.strokes]
    exact crops.paintAll _

end Decoder.Abreast

def Options.bounded (width height : Nat) (o : Options) : Options :=
  { o with maxWidth := width, maxHeight := height }

/-- A smaller bound crops the picture and counts what it cut. Nothing else of a decode depends on it. -/
theorem bounds_only_crop (o : Options) (capture : Octets) {width height maxWidth maxHeight : Nat}
    (hw : width ≤ maxWidth) (hh : height ≤ maxHeight) :
    let small := decode (o.bounded width height) capture
    let large := decode (o.bounded maxWidth maxHeight) capture
    (∀ x y, small.decoded.surface.pixel x y =
      (decide (x < width ∧ y < height) && large.decoded.surface.pixel x y)) ∧
    small.decoded.surface.extentY = large.decoded.surface.extentY ∧
    large.decoded.surface.clipped ≤ small.decoded.surface.clipped ∧
    small.decoded = { large.decoded with surface := small.decoded.surface } ∧
    small.fault? = large.fault? := by
  intro small large
  have alike : (o.bounded width height).Alike (o.bounded maxWidth maxHeight) := ⟨rfl, rfl, rfl⟩
  have agree := alike.acceptAnyGraphicsMode
  have opened := Decoder.opened_abreast (o.bounded width height) (o.bounded maxWidth maxHeight) capture
  obtain ⟨n, hf⟩ := Decoder.exists_walk_finished (o.bounded width height)
    (Decoder.opened (o.bounded width height) capture)
  obtain ⟨abreast, same⟩ := opened.walk agree n
  obtain ⟨pen, crops⟩ :=
    opened.walk_crops alike rfl Pen.home_placed (Surface.blank_crops hw hh) n
  have hsmall := decode_result (o.bounded width height) capture hf
  have hlarge := decode_result (o.bounded maxWidth maxHeight) capture
    (abreast.isFinished.symm.trans hf)
  refine ⟨?pixels, ?extent, ?clipped, ?others, ?fault⟩
  case pixels =>
    intro x y
    rw [decode_decoded hsmall, decode_decoded hlarge]
    exact crops.pixel_eq x y
  case extent =>
    rw [decode_decoded hsmall, decode_decoded hlarge]
    exact crops.extentY_eq
  case clipped =>
    rw [decode_decoded hsmall, decode_decoded hlarge]
    exact crops.clipped_le
  case others =>
    rw [decode_decoded hsmall, decode_decoded hlarge, abreast.decoded_eq pen,
      Decoder.told_congr same, abreast.summary_eq pen]
    rfl
  case fault => rw [decode_fault hsmall, decode_fault hlarge, abreast.fault]

/-- A reset and a raster line of two strips. -/
def twoStrips : Octets := [0x1B, 0x40, 0x47, 0x02, 0x00, 0xFF, 0x81]

/-- Half of the lower strip is cut, and with the strips of filler it makes three. -/
theorem twoStrips_cropped :
    let small := (decode (Options.standard.bounded 1 12) twoStrips).decoded.surface
    let large := (decode (Options.standard.bounded 4 40) twoStrips).decoded.surface
    1 ≤ 4 ∧ 12 ≤ 40 ∧
    (∀ x y, small.pixel x y = (decide (x < 1 ∧ y < 12) && large.pixel x y)) ∧
    large.pixel 0 15 = true ∧ small.pixel 0 15 = false ∧ small.pixel 0 8 = true ∧
    large.clipped = 0 ∧ small.clipped = 3 := by
  intro small large
  have hw : 1 ≤ 4 := by decide
  have hh : 12 ≤ 40 := by decide
  obtain ⟨hpixel, _⟩ := bounds_only_crop .standard twoStrips hw hh
  have hs : ((Decoder.opened (Options.standard.bounded 1 12) twoStrips).walk
    (Options.standard.bounded 1 12) 2).1.isFinished = true := rfl
  have hl : ((Decoder.opened (Options.standard.bounded 4 40) twoStrips).walk
    (Options.standard.bounded 4 40) 2).1.isFinished = true := rfl
  have hsmall : small = _ := congrArg Decoded.surface (decode_decoded (decode_result _ twoStrips hs))
  have hlarge : large = _ := congrArg Decoded.surface (decode_decoded (decode_result _ twoStrips hl))
  refine ⟨hw, hh, hpixel, ?_⟩
  rw [hsmall, hlarge]
  decide +kernel

end LabelStream
