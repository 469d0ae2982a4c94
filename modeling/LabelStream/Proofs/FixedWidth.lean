import LabelStream.Proofs.Magnitude

/-! Drawing with machine words. Here every sum and every product on the way to a dot has to fit a word,
and drawing fails at the first that does not. No capture that is short enough to be stored gets there, so
drawing in words is drawing with numbers of any size. -/
namespace LabelStream

/-- Machine words keep this many values. -/
def wordSize : Nat := Nat.pow 2 64

def word? (n : Nat) : Option Nat := if n < wordSize then some n else none

theorem word?_bind {α : Type} {n : Nat} (h : n < wordSize) (next : Nat → Option α) :
    (word? n >>= next) = next n := by
  rw [word?, if_pos h]
  rfl

theorem Pen.Afforded.move_lt {spent n dots : Nat} {pen : Pen} (h : pen.Afforded spent)
    (costs : (Command.relativeMove dots).Costs n) (few : spent + n < 2 ^ 47) :
    pen.xpos + dots < wordSize := by
  obtain ⟨hdots, hn⟩ := costs
  have hplaced := h.placed
  have hxmax := h.xmax_le
  have hsize : wordSize = 2 ^ 64 := rfl
  unfold Pen.Placed at hplaced
  omega

/-- Paints a strip, with its lower edge and the columns that it needs counted in words. -/
def Surface.paint? (x y : Nat) (dots : UInt8) : Surface → Option Surface
  | ⟨columns, maxWidth, maxHeight, extentY, clipped⟩ => do
    let below ← word? (y + stripHeight)
    let extent := max extentY below
    if x < maxWidth && y < maxHeight then
      let width ← word? (x + 1)
      let bottom := min below maxHeight
      let grown := columns ++ Array.replicate (width - columns.size) #[]
      let drawn := grown.modify x fun column =>
        Column.write y dots (bottom - y) (Column.extend bottom column)
      return ⟨drawn, maxWidth, maxHeight, extent, if bottom = below then clipped else clipped + 1⟩
    else return ⟨columns, maxWidth, maxHeight, extent, clipped + 1⟩

theorem Surface.paint?_eq {x y : Nat} (hx : x + 1 < wordSize) (hy : y + stripHeight < wordSize)
    (dots : UInt8) (s : Surface) : s.paint? x y dots = some (s.paint x y dots) := by
  let t : Strip := ⟨x, y, dots⟩
  have painted : s.paint x y dots = s.noted t.patch
      (if t.patch.meets s.maxWidth s.maxHeight = true then s.drawn t.patch else s.columns) :=
    congrArg Prod.fst (s.paintPatch_eq t.patch)
  rcases s with ⟨columns, maxWidth, maxHeight, extentY, clipped⟩
  rw [painted, paint?, word?_bind hy]
  by_cases inside : (x < maxWidth && y < maxHeight) = true
  · have whole : t.patch.fits maxWidth maxHeight = true ↔
        min (y + stripHeight) maxHeight = y + stripHeight := by
      rw [Bool.and_eq_true, decide_eq_true_eq] at inside
      rw [Patch.fits, Bool.and_eq_true, decide_eq_true_eq, decide_eq_true_eq, min_eq_left_iff]
      exact and_iff_right inside.1
    rw [if_pos ((t.meets_patch maxWidth maxHeight).trans inside)]
    simp only [inside, if_true, noted, whole]
    rw [word?_bind hx]
    rfl
  · have outside : ¬ t.patch.meets maxWidth maxHeight = true := t.meets_patch maxWidth maxHeight ▸ inside
    have missed : ¬ t.patch.fits maxWidth maxHeight = true := fun whole =>
      outside (Bool.or_eq_true_iff.mpr (.inl whole))
    rw [if_neg outside]
    simp only [inside, noted, missed]
    rfl

namespace Sheet

def strip? (x y : Nat) (dots : UInt8) (s : Sheet) : Option Sheet := do
  let surface ← s.surface.paint? x y dots
  let bottom ← word? (y + stripHeight)
  return ⟨{ s.pen with ymax := max s.pen.ymax bottom }, surface⟩

/-- Paints strip number `i` of a column. Its row is worked out even if it is not to be shown. -/
def stripBelow? (shown : Bool) (x y : Nat) (dots : UInt8) (i : Nat) (s : Sheet) : Option Sheet := do
  let drop ← word? (stripHeight * i)
  let row ← word? (y + drop)
  if shown then s.strip? x row dots else return s

def column? (shown : Bool) (x y : Nat) (dots : Octets) (s : Sheet) : Option Sheet :=
  dots.zipIdx.foldlM (fun s (d, i) => s.stripBelow? shown x y d i) s

def line? (o : Options) (data : Octets) (fillers : Nat) (s : Sheet) : Option Sheet := do
  let x := s.pen.xpos
  let s ← s.column? true x 0 data
  let beside ← word? (x + 1)
  let s ← s.column? o.drawFiller beside 0 (List.replicate fillers rasterFiller)
  return s.moveTo beside

/-- Draws a bit image column by column; the last column may be cut. -/
def bitImage? (o : Options) : Octets → Sheet → Option Sheet
  | [], s => some s
  | [a], s => s.column? true s.pen.xpos s.pen.ypos [a]
  | [a, b], s => s.column? true s.pen.xpos s.pen.ypos [a, b]
  | a :: b :: c :: rest, s => do
    let x := s.pen.xpos
    let y := s.pen.ypos
    let s ← s.column? true x y [a, b, c]
    let beside ← word? (x + 1)
    let s ← s.column? o.drawFiller beside y (List.replicate 3 bitImageFiller)
    let drop ← word? (3 * stripHeight)
    let below ← word? (y + drop)
    let s ← s.column? o.drawFiller x below [bitImageFiller]
    bitImage? o rest (s.moveTo beside)

def lineFeed? (dots : Nat) (s : Sheet) : Option Sheet := do
  let y ← word? (s.pen.ypos + dots)
  return { s with pen := { s.pen with ypos := y } }

/-- Performs a command in words. A move does not stop at the last column here but fails. -/
def perform? (o : Options) (s : Sheet) : Command → Option Sheet
  | .relativeMove dots => do
    let x ← word? (s.pen.xpos + dots)
    return s.moveTo x
  | .bitImage _ _ dots => s.bitImage? o dots
  | .rasterLine _ _ line => s.line? o line line.length
  | .blankLine => s.line? o (List.replicate o.profile.blankLineStrips 0) blankLineFillerStrips
  | .formFeed => (s.moveTo 0).lineFeed? o.profile.formFeedDots
  | .lineFeed => s.lineFeed? o.profile.lineFeedDots
  | .carriageReturn => some (s.moveTo s.pen.xmin)
  | .setting code operands => some (s.perform o (.setting code operands))
  | .compression kind => some (s.perform o (.compression kind))
  | .reset | .printFeed _ => some s

variable {o : Options} {s : Sheet} {x y : Nat}

theorem strip?_eq (hx : x + 1 < wordSize) (hy : y + stripHeight < wordSize) (dots : UInt8)
    (s : Sheet) : s.strip? x y dots = some (s.strip x y dots) := by
  rw [strip?, Surface.paint?_eq hx hy, Option.bind_eq_bind, Option.bind_some, word?_bind hy]
  rfl

theorem stripBelow?_eq (hx : x + 1 < wordSize) {i : Nat}
    (hy : y + stripHeight * (i + 1) < wordSize) (shown : Bool) (dots : UInt8) (s : Sheet) :
    s.stripBelow? shown x y dots i =
      some (if shown then s.strip x (y + stripHeight * i) dots else s) := by
  have hend : y + stripHeight * i + stripHeight < wordSize := by rwa [Nat.add_assoc]
  have hdrop : stripHeight * i < wordSize := by omega
  have hrow : y + stripHeight * i < wordSize := by omega
  rw [stripBelow?, word?_bind hdrop, word?_bind hrow, strip?_eq hx hend]
  cases shown <;> rfl

theorem foldlM_eq_some {α β : Type} {f : β → α → Option β} {g : β → α → β} {items : List α}
    (h : ∀ a ∈ items, ∀ b, f b a = some (g b a)) (b : β) :
    items.foldlM f b = some (items.foldl g b) := by
  induction items generalizing b with
  | nil => rfl
  | cons a items ih =>
      rw [List.foldlM_cons, h a List.mem_cons_self b]
      exact ih (fun a' ha => h a' (List.mem_cons_of_mem a ha)) (g b a)

theorem column?_eq (hx : x + 1 < wordSize) (dots : Octets)
    (hy : y + stripHeight * dots.length < wordSize) (shown : Bool) (s : Sheet) :
    s.column? shown x y dots = some (if shown then s.column x y dots else s) := by
  have strips : ∀ entry ∈ dots.zipIdx, ∀ s : Sheet,
      s.stripBelow? shown x y entry.1 entry.2 =
        some (if shown then s.strip x (y + stripHeight * entry.2) entry.1 else s) := by
    rintro ⟨d, i⟩ entry s
    have hi : i < dots.length := List.snd_lt_of_mem_zipIdx entry
    have hle := Nat.mul_le_mul_left stripHeight (Nat.succ_le_of_lt hi)
    exact stripBelow?_eq hx (Nat.lt_of_le_of_lt (Nat.add_le_add_left hle y) hy) shown d s
  rw [column?, foldlM_eq_some strips]
  cases shown with
  | true => rfl
  | false => exact congrArg some (List.foldl_fixed dots.zipIdx)

theorem column?_bind (hx : x + 1 < wordSize) (dots : Octets)
    (hy : y + stripHeight * dots.length < wordSize) (shown : Bool) (s : Sheet)
    (next : Sheet → Option Sheet) :
    (s.column? shown x y dots >>= next) = next (if shown then s.column x y dots else s) := by
  rw [column?_eq hx dots hy]
  rfl

theorem line?_eq (hx : s.pen.xpos + 2 < wordSize) {data : Octets} {fillers : Nat}
    (hdata : stripHeight * data.length < wordSize) (hfillers : stripHeight * fillers < wordSize) :
    s.line? o data fillers = some (((s.column s.pen.xpos 0 data).filler o (s.pen.xpos + 1) 0
      (List.replicate fillers rasterFiller)).moveTo (s.pen.xpos + 1)) := by
  have hx' : s.pen.xpos + 1 < wordSize := by omega
  have hdata' : 0 + stripHeight * data.length < wordSize := by rwa [Nat.zero_add]
  have hfillers' : 0 + stripHeight * (List.replicate fillers rasterFiller).length < wordSize := by
    rwa [Nat.zero_add, List.length_replicate]
  rw [line?, column?_bind hx' data hdata', word?_bind hx', column?_bind hx _ hfillers']
  rfl

theorem bitImage?_eq {dots : Octets} (hx : s.pen.xpos + dots.length < wordSize)
    (hy : s.pen.ypos + 4 * stripHeight < wordSize) :
    s.bitImage? o dots = some (s.replay (bitImageStrokes o s.pen.xpos s.pen.ypos dots)) := by
  have rows : ∀ (n : Nat) {y : Nat}, n ≤ 4 → y + 4 * stripHeight < wordSize →
      y + stripHeight * n < wordSize := by
    intro n y hn hy
    have hle := Nat.mul_le_mul_left stripHeight hn
    omega
  fun_induction bitImage? o dots s with
  | case1 s => rfl
  | case2 a s =>
      rw [column?_eq hx [a] (rows 1 (by decide) hy)]
      exact congrArg some (Bar.replay_strokes ⟨s.pen.xpos, s.pen.ypos, [a], false⟩ s).symm
  | case3 a b s =>
      rw [column?_eq (Nat.lt_of_succ_lt hx) [a, b] (rows 2 (by decide) hy)]
      exact congrArg some (Bar.replay_strokes ⟨s.pen.xpos, s.pen.ypos, [a, b], false⟩ s).symm
  | case4 a b c rest s x y ih =>
      have hrest : x + (rest.length + 3) < wordSize := hx
      have hbeside : x + 1 < wordSize := by omega
      have hbeside' : x + 1 + 1 < wordSize := by omega
      have hdrop : 3 * stripHeight < wordSize := by decide
      have hthree : y + 3 * stripHeight < wordSize := rows 3 (by decide) hy
      have hbelow : y + 3 * stripHeight + stripHeight * [bitImageFiller].length < wordSize := hy
      -- The rest is drawn from `next`, whose pen stands over the next column in the same row.
      obtain ⟨next, hnext⟩ :
          ∃ next, next = (tripleBars x y ⟨a, b, c⟩).foldl (fun s b => s.bar o b) s := ⟨_, rfl⟩
      have hrow : next.pen.ypos = y := by
        rw [hnext]
        exact (foldl_bar_place o _ s).2.1
      calc (do
            let s ← s.column? true x y [a, b, c]
            let beside ← word? (x + 1)
            let s ← s.column? o.drawFiller beside y (List.replicate 3 bitImageFiller)
            let drop ← word? (3 * stripHeight)
            let below ← word? (y + drop)
            let s ← s.column? o.drawFiller x below [bitImageFiller]
            bitImage? o rest (s.moveTo beside))
          = bitImage? o rest (next.moveTo (x + 1)) := by
            rw [column?_bind hbeside [a, b, c] hthree, word?_bind hbeside,
              column?_bind hbeside' (List.replicate 3 bitImageFiller) hthree, word?_bind hdrop,
              word?_bind hthree, column?_bind hbeside [bitImageFiller] hbelow, hnext]
            rfl
        _ = some ((next.moveTo (x + 1)).replay
              (bitImageStrokes o (x + 1) next.pen.ypos rest)) := by
            refine ih (x + 1) next ?_ ?_
            · change x + 1 + rest.length < wordSize
              omega
            · change next.pen.ypos + 4 * stripHeight < wordSize
              rwa [hrow]
        _ = some (s.replay (bitImageStrokes o x y (a :: b :: c :: rest))) := by
            rw [hrow, replay_triple, ← hnext]

theorem lineFeed?_eq {dots : Nat} (hy : s.pen.ypos + dots < wordSize) :
    s.lineFeed? dots = some { s with pen := s.pen.lineFeed dots } := word?_bind hy _

/-- Whatever a command adds up has room in a word, if the bytes that paid for it are no more than could
be stored. -/
theorem perform?_eq {spent n : Nat} {command : Command} (h : s.pen.Afforded spent)
    (costs : command.Costs n) (few : spent + n < 2 ^ 47) :
    s.perform? o command = some (s.perform o command) := by
  obtain ⟨hblank, hline, hform⟩ := o.model.profile_le
  have hplaced := h.placed
  have hxmax := h.xmax_le
  have hypos := h.ypos_le
  have hsize : wordSize = 2 ^ 64 := rfl
  have hstrip : stripHeight = 8 := rfl
  unfold Pen.Placed at hplaced
  cases command with
  | reset => rfl
  | printFeed code => rfl
  | setting code operands => rfl
  | compression kind => rfl
  | carriageReturn => rfl
  | relativeMove dots =>
      have hx := h.move_lt costs few
      have free : min (s.pen.xpos + dots) lastColumn = s.pen.xpos + dots :=
        Nat.min_eq_left (Nat.le_pred_of_lt hx)
      calc s.perform? o (.relativeMove dots)
          = some (s.moveTo (s.pen.xpos + dots)) := word?_bind hx _
        _ = some (s.moveTo (min (s.pen.xpos + dots) lastColumn)) := by rw [free]
  | bitImage mode columns dots =>
      have hn : dots.length + 5 ≤ n := costs
      rw [← replay_strokes h.placed]
      exact bitImage?_eq (by omega) (by omega)
  | rasterLine form length line =>
      obtain ⟨hn, hline⟩ := costs
      have hrows : stripHeight * line.length < wordSize := by
        change 8 * line.length < wordSize
        omega
      rw [perform_rasterLine]
      exact line?_eq (by omega) hrows hrows
  | blankLine =>
      have hn : 0 < n := costs
      have hrows :
          stripHeight * (List.replicate o.profile.blankLineStrips (0 : UInt8)).length < wordSize := by
        rw [List.length_replicate]
        change 8 * o.model.profile.blankLineStrips < wordSize
        omega
      rw [perform_blankLine]
      exact line?_eq (by omega) hrows (by decide)
  | formFeed =>
      refine lineFeed?_eq (s := s.moveTo 0) ?_
      change s.pen.ypos + o.model.profile.formFeedDots < wordSize
      omega
  | lineFeed =>
      refine lineFeed?_eq ?_
      change s.pen.ypos + o.model.profile.lineFeedDots < wordSize
      omega

/-- A move from the last column stays there, and in words it fails. -/
example (o : Options) (s : Surface) :
    Sheet.perform? o ⟨Pen.home.moveTo lastColumn, s⟩ (.relativeMove 1) = none := rfl

end Sheet

namespace Session

/-- The marks of a decode grow no faster than the capture that is read. From any state the next command
can be performed in words, with the same result; so a move stops short of the last column by itself. -/
theorem drawing_fits_words (o : Options) (sink : Sink) (capture : Octets) (budgets : List Nat) :
    let d := (reached o sink capture budgets).decoder
    4 * d.pen.xmax ≤ 65535 * capture.length ∧ d.pen.ypos ≤ 24 * capture.length ∧
    d.pen.ymax ≤ 1296 * capture.length ∧
    (capture.length < 2 ^ 47 → ∀ command, (d.reading o).command? = some command →
      d.sheet.perform? o command = some (d.advance o).1.sheet ∧
      ∀ dots, command = .relativeMove dots →
        min (d.pen.xpos + dots) lastColumn = d.pen.xpos + dots) := by
  intro d
  have pen := reached_afforded o sink capture budgets
  refine ⟨pen.xmax_le, pen.ypos_le, pen.ymax_le, fun few command hc => ?_⟩
  obtain ⟨spent, afforded, hle⟩ : d.Afforded capture.length := reached_spent o sink capture budgets
  have costs : command.Costs d.cursor.rest.length := Grammar.read_paid _ d.cursor command hc
  have few' := Nat.lt_of_le_of_lt hle few
  constructor
  · have hsheet := d.advance_sheet o
    rw [hc] at hsheet
    rw [hsheet]
    exact Sheet.perform?_eq afforded costs few'
  · rintro dots rfl
    exact Nat.min_eq_left (Nat.le_pred_of_lt (afforded.move_lt costs few'))

end Session

end LabelStream
