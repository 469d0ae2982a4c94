import LabelStream.Proofs.Crop
import LabelStream.Proofs.Shifting
import LabelStream.Proofs.Sliding

/-! Pages side by side. A continuous page begins right of everything drawn before it, so a capture that
goes on with one shows two pictures next to each other, and each of them is what it would be alone. -/
namespace LabelStream

def Unfilled (strokes : List Stroke) : Prop := dataStrips strokes = strips strokes

theorem Unfilled.append {strokes more : List Stroke} (h : Unfilled strokes) (h' : Unfilled more) :
    Unfilled (strokes ++ more) := by
  rw [Unfilled, dataStrips_append, h, h']
  exact List.filterMap_append.symm

theorem Bar.strokes_unfilled {b : Bar} (h : b.filler = false) : Unfilled b.strokes := by
  simp only [Unfilled, dataStrips, strips, strokes, List.filterMap_map, h]
  rfl

section

variable {o : Options} (h : o.drawFiller = false)
include h

theorem barStrokes_unfilled (bars : List Bar) : Unfilled (barStrokes o bars) := by
  induction bars with
  | nil =>
      simp only [barStrokes, Decoder.visibleBars, h]
      rfl
  | cons b bars ih =>
      rw [barStrokes, Sheet.visibleBars_cons, h, Bool.not_false, Bool.and_true]
      cases hb : b.filler with
      | true => exact ih
      | false => exact (Bar.strokes_unfilled hb).append ih

theorem bitImageStrokes_unfilled (x y : Nat) (dots : Octets) :
    Unfilled (bitImageStrokes o x y dots) := by
  fun_induction bitImageStrokes o x y dots with
  | case1 x => rfl
  | case2 x a => exact Bar.strokes_unfilled rfl
  | case3 x a b => exact Bar.strokes_unfilled rfl
  | case4 x a b c rest ih => exact (barStrokes_unfilled h _).append ih

theorem Command.strokes_unfilled (pen : Pen) (command : Command) :
    Unfilled (command.strokes o pen) := by
  cases command with
  | setting code operands =>
      simp only [strokes]
      split <;> rfl
  | compression kind =>
      simp only [strokes]
      split <;> rfl
  | bitImage mode columns dots => exact bitImageStrokes_unfilled h pen.xpos pen.ypos dots
  | rasterLine form length line => exact (barStrokes_unfilled h _).append rfl
  | blankLine => exact (barStrokes_unfilled h _).append rfl
  | _ => rfl

theorem Decoder.strokes_unfilled (n : Nat) (d : Decoder) : Unfilled (d.strokes o n) := by
  induction n generalizing d with
  | zero => rfl
  | succ n ih =>
      cases hf : d.isFinished with
      | true => rw [strokes_of_finished o hf]; rfl
      | false =>
          rw [strokes_succ o hf]
          refine Unfilled.append ?_ (ih _)
          unfold nextStrokes
          split
          · rfl
          · exact Command.strokes_unfilled h _ _

/-- A decode that ran out of data between commands has painted only left of where a page would begin. -/
theorem painted_left {capture : Octets} (ended : (decode o capture).decoded.halt = .endOfStream) :
    ∃ done, (decode o capture).decoded.surface = (Surface.blank o.maxWidth o.maxHeight).paintAll done ∧
      ∀ t ∈ done, t.x < (decode o capture).decoded.pen.xmax := by
  obtain ⟨sink, budgets, hd⟩ := decode_reached o capture
  rw [hd] at ended ⊢
  refine ⟨_, Session.reached_surface o sink capture budgets, ?_⟩
  have unfilled : Unfilled (Session.history o capture budgets) := Decoder.strokes_unfilled h _ _
  rw [← unfilled]
  obtain ⟨rest, trails, _, cut⟩ := Session.reached_keeps o sink capture budgets
  -- Only a command that was cut leaves a strip at the pen, and this decode did not end in one.
  by_cases hr : rest = []
  · exact trails.left_iff.mpr (.inl hr)
  · obtain ⟨p, hp⟩ := cut hr
    change Decoder.ending _ = _ at ended
    rw [Decoder.ending, hp] at ended
    cases ended

end

theorem Sentence.concat {lenient mode last : Bool} {words : List Octets} {commands : List Command}
    (h : Sentence lenient mode words commands last) {word : Octets} {command : Command}
    (spelt : Spells ⟨last, lenient⟩ word command) :
    Sentence lenient mode (words ++ [word]) (commands ++ [command]) (command.modeAfter last) := by
  induction h with
  | nil mode => exact .cons spelt (.nil _)
  | cons first rest ih => exact .cons first (ih spelt)

namespace Decoder

variable (o : Options)

theorem performed_shift (n k : Nat) (d : Decoder) :
    (d.shift n).performed o k = d.performed o k := by
  have command? : ∀ r : Reading, (r.shift n).command? = r.command? := by
    intro r
    cases r with
    | cut fragment after => cases fragment <;> rfl
    | _ => rfl
  induction k generalizing d with
  | zero => rfl
  | succ k ih => simp only [performed, isFinished_shift, reading_shift, command?, advance_shift, ih]

theorem fault_shift (n : Nat) (d : Decoder) : (d.shift n).fault? = d.fault?.map (Fault.shift n) := by
  rcases d with ⟨phase, cursor, opcodes, pen, surface⟩
  cases phase <;> rfl

end Decoder

namespace Passage

variable {o : Options} (q : Passage o)

def concat {word : Octets} {command : Command} (q : Passage o)
    (spelt : Spells ⟨q.mode, o.acceptAnyGraphicsMode⟩ word command) : Passage o :=
  ⟨q.preamble, q.words ++ [word], q.commands ++ [command], command.modeAfter q.mode, q.plain,
    q.spelt.concat spelt⟩

section

variable {word : Octets} {command : Command}
  (spelt : Spells ⟨q.mode, o.acceptAnyGraphicsMode⟩ word command)

theorem concat_flatten : (q.concat spelt).words.flatten = q.words.flatten ++ word := by
  simp only [concat, List.flatten_append, List.flatten_cons, List.flatten_nil, List.append_nil]

theorem concat_before (tail : Octets) : (q.concat spelt).before tail = q.before (word ++ tail) := by
  rw [before, concat_flatten, List.append_assoc]
  rfl

theorem concat_size : (q.concat spelt).size = q.size + word.length := by
  rw [size, concat_flatten, List.length_append, ← Nat.add_assoc]
  rfl

theorem concat_drawn : (q.concat spelt).drawn = q.drawn.perform o command := by
  simp only [drawn, concat, List.foldl_append, List.foldl_cons, List.foldl_nil]

theorem concat_escaped {tail : Octets} (h : Escaped (q.words.flatten ++ (word ++ tail))) :
    Escaped ((q.concat spelt).words.flatten ++ tail) := by
  rw [concat_flatten, List.append_assoc]
  exact h

end

/-- The decoder that has the passage drawn and counts from where it ends. -/
def ahead (tail : Octets) : Decoder := .ready ⟨0, tail⟩ q.words.length q.drawn

/-- A decode goes on behind a passage as if the passage were not there, only further on. -/
theorem decode_before {tail : Octets} (escaped : Escaped (q.words.flatten ++ tail)) {n : Nat}
    (hf : ((q.ahead tail).walk o n).1.isFinished = true) : ∃ trace,
    (decode o (q.before tail)).result = (((q.ahead tail).walk o n).1.shift q.size).result trace := by
  obtain ⟨told, tells⟩ := q.exists_tells
  have walk : (q.behind tail).walk o n = (_, _) := Decoder.walk_shift o q.size (q.ahead tail) n
  exact ⟨_, tells tail escaped n _ _ walk (by rw [Decoder.isFinished_shift, hf])⟩

/-- What is performed behind a passage is performed by the decode of the whole. -/
theorem performed_ahead {tail : Octets} (escaped : Escaped (q.words.flatten ++ tail)) {n : Nat}
    {command : Command} (h : command ∈ (q.ahead tail).performed o n) :
    command ∈ (Decoder.opened o (q.before tail)).performed o (q.words.length + n) := by
  rw [q.opened_before escaped, Decoder.performed_sentence o q.spelt _ _ rfl]
  apply List.mem_append_right
  rw [← Decoder.performed_shift o q.size] at h
  rw [Nat.zero_add]
  exact h

/-- A capture whose decode ran out of data between commands is a passage to its end. -/
theorem of_ended {capture : Octets} (ended : (decode o capture).decoded.halt = .endOfStream) :
    ∃ q : Passage o, capture = q.before [] ∧ Escaped q.words.flatten := by
  obtain ⟨parse, hof⟩ := Parse.exists_of o capture
  obtain ⟨q, tail, _, _, hc, escaped, hends⟩ := hof.passage
  have answered : parse.Answered (decode o capture).result := hof.answered _
  unfold Parse.Answered at answered
  cases hending : parse.ending with
  | clean =>
      rw [hending] at hends
      cases hends
      rw [List.append_nil] at escaped
      exact ⟨q, hc, escaped⟩
  | cut =>
      rw [hending] at answered
      obtain ⟨d, hr, hhalt⟩ := answered
      rw [Outcome.decoded, hr, hhalt] at ended
      cases ended
  | terminator =>
      rw [hending] at answered
      obtain ⟨d, hr, hhalt⟩ := answered
      rw [Outcome.decoded, hr, hhalt] at ended
      cases ended
  | refused offset byte kind =>
      rw [hending] at answered
      obtain ⟨d, hr, hhalt⟩ := answered
      rw [Outcome.decoded, hr, hhalt] at ended
      cases ended

end Passage

/-- What a capture begins with that draws a page alone, in the coding that the page is written in. -/
def loneOpening (compressed : Bool) : Octets :=
  Builder.reset ++ if compressed then Builder.setCompression true else []

theorem Passage.exists_lone (o : Options) (compressed : Bool) : ∃ q : Passage o,
    (∀ tail, q.before tail = loneOpening compressed ++ tail) ∧
      q.size = (loneOpening compressed).length ∧
      (∀ tail, Escaped (q.words.flatten ++ tail)) ∧
      q.drawn = ⟨{ Pen.home with compression := compressed }, .blank o.maxWidth o.maxHeight⟩ := by
  cases compressed with
  | false =>
      exact ⟨⟨[], [Builder.reset], [.reset], false, List.not_mem_nil, .cons .reset (.nil false)⟩,
        fun tail => rfl, rfl, fun tail => .inr ⟨_, rfl⟩, rfl⟩
  | true =>
      exact ⟨⟨[], [Builder.reset, Builder.setCompression true], [.reset, .compression runLengthKind],
        true, List.not_mem_nil, .cons .reset (.cons (.compression runLengthKind) (.nil true))⟩,
        fun tail => rfl, rfl, fun tail => .inr ⟨_, rfl⟩, rfl⟩

/-- Behind a capture whose decode ran out of data between commands a page begins right of all that was
drawn. -/
theorem Passage.exists_page {o : Options} {first : Octets}
    (ended : (decode o first).decoded.halt = .endOfStream) : ∃ q : Passage o,
    (∀ tail, q.before tail = first ++ Builder.continuousPage ++ tail) ∧
      q.size = first.length + 3 ∧
      (∀ tail, Escaped (q.words.flatten ++ tail)) ∧
      q.drawn = ⟨(decode o first).decoded.pen.startPage, (decode o first).decoded.surface⟩ := by
  obtain ⟨q, hq, escaped⟩ := of_ended ended
  obtain ⟨told, tells⟩ := q.exists_tells
  have hdrawn : q.drawn = ⟨(decode o first).decoded.pen, (decode o first).decoded.surface⟩ := by
    have closed := tells.closed escaped
    rw [Outcome.decoded, hq, closed]
    rfl
  have spelt : Spells ⟨q.mode, o.acceptAnyGraphicsMode⟩ Builder.continuousPage (.setting 0x50 []) :=
    .setting rfl
  refine ⟨q.concat spelt, fun tail => ?before, ?size, fun tail => ?escaped, ?drawn⟩
  case before =>
    rw [q.concat_before, hq]
    simp only [Passage.before, List.append_nil, List.append_assoc]
  case size =>
    rw [q.concat_size, hq, q.before_length]
    rfl
  case escaped =>
    apply q.concat_escaped
    by_cases present : q.words.flatten = []
    · rw [present]
      exact .inr ⟨_, rfl⟩
    · exact escaped.append present _
  case drawn =>
    rw [q.concat_drawn, hdrawn]
    rfl

theorem Pen.startPage_beside (pen : Pen) :
    pen.startPage = pen.beside { Pen.home with compression := pen.compression } := by
  simp only [startPage, moveTo, beside, home, Nat.add_zero, Nat.max_self, Nat.max_zero]

theorem decode_afforded (o : Options) (capture : Octets) :
    (decode o capture).decoded.pen.Afforded capture.length := by
  obtain ⟨sink, budgets, hd⟩ := decode_reached o capture
  rw [hd]
  exact Session.reached_afforded o sink capture budgets

namespace Decoder.Beside

variable {first : Pen} {d alone : Decoder}

theorem ending (h : d.Beside first alone) : d.ending = alone.ending := by
  simp only [Decoder.ending, h.phase]

theorem fault (h : d.Beside first alone) : d.fault? = alone.fault? := by
  simp only [fault?, h.phase]

/-- A page on a picture that ends left of it is seen beside that picture. -/
theorem walk_pixel {o : Options} {done : List Strip} {n : Nat} (h : d.Beside first alone)
    (placed : alone.pen.Placed)
    (strokes : d.strokes o n = (alone.strokes o n).map (Stroke.right first.xmax))
    (picture : d.surface = (Surface.blank o.maxWidth o.maxHeight).paintAll done)
    (left : ∀ t ∈ done, t.x < first.xmax)
    (blank : alone.surface = .blank o.maxWidth o.maxHeight) (x y : Nat) :
    (d.walk o n).1.surface.pixel x y =
      if x < first.xmax then d.surface.pixel x y
      else decide (x < o.maxWidth) && (alone.walk o n).1.surface.pixel (x - first.xmax) y := by
  have placed' : d.pen.Placed := by
    rw [h.pen]
    exact Nat.add_le_add_left placed _
  have appended : (d.walk o n).1.surface = (Surface.blank o.maxWidth o.maxHeight).paintAll
      (done ++ (strips (alone.strokes o n)).map (Strip.right first.xmax)) := by
    rw [walk_surface o placed', strokes, strips_right, picture]
    exact List.foldl_append.symm
  rw [appended, walk_surface o placed, picture, blank]
  exact Surface.pixel_beside left _ _ _ x y

end Decoder.Beside

/-- A continuous page is drawn beside the pages before it just as it would be drawn alone, and ends the
same way. No earlier page is touched. Filler is out of this, and so is a form feed, which returns to the
left edge of the picture. -/
theorem page_beside (o : Options) (unfilled : o.drawFiller = false) {first page : Octets}
    (ended : (decode o first).decoded.halt = .endOfStream) (hfirst : first.length < 2 ^ 40)
    (hpage : page.length < 2 ^ 40)
    (level : ∀ n, Command.formFeed ∉ (Decoder.opened o
      (loneOpening (decode o first).decoded.pen.compression ++ page)).performed o n) :
    let before := (decode o first).decoded
    let opening := loneOpening before.pen.compression
    let alone := decode o (opening ++ page)
    let both := decode o (first ++ Builder.continuousPage ++ page)
    (∃ (halt : Halt) (fault? : Option Fault),
      alone.decoded.halt = halt.shift opening.length ∧
      both.decoded.halt = halt.shift (first.length + 3) ∧
      alone.fault? = fault?.map (Fault.shift opening.length) ∧
      both.fault? = fault?.map (Fault.shift (first.length + 3))) ∧
    both.decoded.pen = before.pen.beside alone.decoded.pen ∧
    ∀ x y, both.decoded.surface.pixel x y =
      if x < before.pen.xmax then before.surface.pixel x y
      else decide (x < o.maxWidth) && alone.decoded.surface.pixel (x - before.pen.xmax) y := by
  intro before opening alone both
  obtain ⟨l, hl, hlsize, hlescaped, hldrawn⟩ := Passage.exists_lone o before.pen.compression
  obtain ⟨r, hr, hrsize, hrescaped, hrdrawn⟩ := Passage.exists_page ended
  -- Both decodes go on with the page behind a passage, one behind its opening, one behind `first`.
  have beside : (r.ahead page).Beside before.pen (l.ahead page) := by
    refine ⟨rfl, rfl, ?_⟩
    change r.drawn.pen = before.pen.beside l.drawn.pen
    rw [hrdrawn, hldrawn]
    exact before.pen.startPage_beside
  have afforded : (l.ahead page).Afforded page.length := by
    refine ⟨0, ?_, Nat.le_of_eq (Nat.zero_add _)⟩
    change l.drawn.pen.Afforded 0
    rw [hldrawn]
    exact ⟨Nat.le_refl 0, Nat.le_refl 0, Nat.le_refl 0, Nat.le_refl 0, Nat.le_refl 0⟩
  have room : 4 * before.pen.xmax + 65535 * (page.length + 4) ≤ 4 * lastColumn := by
    have hxmax : 4 * before.pen.xmax ≤ 65535 * first.length := (decode_afforded o first).xmax_le
    have hlast : lastColumn = 18446744073709551615 := rfl
    omega
  obtain ⟨n, hf⟩ := Decoder.exists_walk_finished o (l.ahead page)
  have hlevel : Command.formFeed ∉ (l.ahead page).performed o n := by
    intro h
    have performed := l.performed_ahead (hlescaped page) h
    rw [hl] at performed
    exact level _ performed
  obtain ⟨last, strokes⟩ := beside.walk afforded room hlevel
  obtain ⟨_, halone⟩ := l.decode_before (hlescaped page) hf
  obtain ⟨_, hboth⟩ := r.decode_before (hrescaped page) (last.isFinished.trans hf)
  rw [hl, hlsize] at halone
  rw [hr, hrsize] at hboth
  have decodedAlone : alone.decoded = _ := decode_decoded halone
  have decodedBoth : both.decoded = _ := decode_decoded hboth
  refine ⟨⟨((l.ahead page).walk o n).1.ending, ((l.ahead page).walk o n).1.fault?, ?_, ?_, ?_, ?_⟩,
    ?pen, ?pixels⟩
  · rw [decodedAlone]
    exact Decoder.ending_shift _ _
  · rw [decodedBoth, ← last.ending]
    exact Decoder.ending_shift _ _
  · exact (decode_fault halone).trans (Decoder.fault_shift _ _)
  · rw [← last.fault]
    exact (decode_fault hboth).trans (Decoder.fault_shift _ _)
  case pen =>
    rw [decodedAlone, decodedBoth]
    exact last.pen
  case pixels =>
    intro x y
    obtain ⟨done, hdone, left⟩ := painted_left unfilled ended
    have picture : (r.ahead page).surface = before.surface := congrArg Sheet.surface hrdrawn
    have blank : (l.ahead page).surface = .blank o.maxWidth o.maxHeight :=
      congrArg Sheet.surface hldrawn
    rw [decodedAlone, decodedBoth, ← picture]
    exact beside.walk_pixel afforded.placed strokes (picture.trans hdone) left blank x y

/-- A reset and one column with its top dot. -/
def topDot : Octets := [0x1B, 0x40, 0x47, 0x01, 0x00, 0x80]

/-- A carriage return, one column with its second dot, and a byte that is no opcode. -/
def secondDot : Octets := [0x0D, 0x47, 0x01, 0x00, 0x40, 0xFE]

def Options.unfilled : Options := { Options.standard with drawFiller := false }

theorem secondDot_beside_topDot :
    let before := (decode .unfilled topDot).decoded
    let alone := decode .unfilled (loneOpening false ++ secondDot)
    let both := decode .unfilled (topDot ++ Builder.continuousPage ++ secondDot)
    before.halt = .endOfStream ∧ before.pen.xmax = 1 ∧
    alone.fault? = some ⟨7, some 0xFE, .unrecognizedOpcode⟩ ∧
    both.fault? = some ⟨14, some 0xFE, .unrecognizedOpcode⟩ ∧
    both.decoded.pen = before.pen.beside alone.decoded.pen ∧
    both.decoded.surface.pixel 0 0 = true ∧ both.decoded.surface.pixel 0 1 = false ∧
    both.decoded.surface.pixel 1 0 = false ∧ both.decoded.surface.pixel 1 1 = true := by
  intro before alone both
  have hfirst : ((Decoder.opened .unfilled topDot).walk .unfilled 2).1.isFinished = true := rfl
  have hlone : ((Decoder.opened .unfilled (loneOpening false ++ secondDot)).walk
    .unfilled 4).1.isFinished = true := rfl
  have hbefore : before = _ := decode_decoded (decode_result .unfilled topDot hfirst)
  have halone := decode_result .unfilled (loneOpening false ++ secondDot) hlone
  have ended : before.halt = .endOfStream := by
    rw [hbefore]
    rfl
  have xmax : before.pen.xmax = 1 := by
    rw [hbefore]
    rfl
  have opening : loneOpening before.pen.compression = loneOpening false := by
    rw [hbefore]
    rfl
  have level : ∀ n, Command.formFeed ∉ (Decoder.opened .unfilled
      (loneOpening before.pen.compression ++ secondDot)).performed .unfilled n := by
    intro n h
    rw [opening] at h
    exact absurd (Decoder.performed_of_walk .unfilled hlone n h) (by decide)
  obtain ⟨⟨_, fault, _, _, faultAlone, faultBoth⟩, hpen, hpixel⟩ :=
    page_beside .unfilled rfl ended (by decide) (by decide) level
  have faultLone : alone.fault? = some ⟨7, some 0xFE, .unrecognizedOpcode⟩ := by
    rw [decode_fault halone]
    rfl
  rw [opening] at faultAlone hpen
  have pixel : ∀ x y, both.decoded.surface.pixel x y =
      if x < 1 then before.surface.pixel x y
      else decide (x < Options.unfilled.maxWidth) && alone.decoded.surface.pixel (x - 1) y := by
    intro x y
    have h := hpixel x y
    rw [opening] at h
    rw [← xmax]
    exact h
  refine ⟨ended, xmax, faultLone, ?_, hpen, ?_⟩
  · -- The byte stands two behind the opening of the lone page, so it is five into the page.
    rw [faultLone] at faultAlone
    obtain ⟨⟨position, byte, kind⟩, rfl, hshift⟩ := Option.map_eq_some_iff.mp faultAlone.symm
    simp only [Fault.shift, Fault.mk.injEq] at hshift
    obtain ⟨hposition, rfl, rfl⟩ := hshift
    have five : position = 5 := Nat.add_left_cancel (n := 2) hposition
    rw [faultBoth, five]
    rfl
  · rw [pixel, pixel, pixel, pixel, hbefore, decode_decoded halone]
    decide +kernel

end LabelStream
