import LabelStream.Proofs.Painting
import LabelStream.Proofs.Sentences

/-! What is written is drawn. A job is a list of builder calls with arguments that fit the format. Its
picture is said here strip by strip, and decoding what the builders wrote draws exactly that. -/
namespace LabelStream.Builder

inductive Call where
  | reset
  | setting (code : UInt8) (operands : Octets)
  | continuousPage
  | statusRequest
  | relativeMove (dots : Nat)
  | bitImage (columns : List Triple)
  | bitImageWithMode (mode : UInt8) (columns : List Triple)
  | rasterLine (data : Octets)
  | rasterLineCompressed (data : Octets)
  | rasterLineShort (data : Octets)
  | blankLine
  | setCompression (enabled : Bool)
  | printFeed
  | formFeed
  | carriageReturn
  | lineFeed

namespace Call

def octets : Call → Octets
  | reset => Builder.reset
  | setting code operands => Builder.setting code operands
  | continuousPage => Builder.continuousPage
  | statusRequest => Builder.statusRequest
  | relativeMove dots => Builder.relativeMove dots
  | bitImage columns => Builder.bitImage columns
  | bitImageWithMode mode columns => Builder.bitImageWithMode mode columns
  | rasterLine data => Builder.rasterLine data
  | rasterLineCompressed data => Builder.rasterLineCompressed data
  | rasterLineShort data => Builder.rasterLineShort data
  | blankLine => Builder.blankLine
  | setCompression enabled => Builder.setCompression enabled
  | printFeed => Builder.printFeed
  | formFeed => Builder.formFeed
  | carriageReturn => Builder.carriageReturn
  | lineFeed => Builder.lineFeed

/-- The arguments fit the fields that hold them, and raster lines are coded just while that is on. -/
def Fits (lenient coded : Bool) : Call → Prop
  | setting code operands => operands.length = (Setting.ofByte code).operandCount
  | relativeMove dots => dots < 65536
  | bitImage columns => columns.length < 65536
  | bitImageWithMode mode columns =>
      (mode = bitImageMode ∨ lenient = true) ∧ columns.length < 65536
  | rasterLine data => coded = false ∧ data.length < 65536
  | rasterLineCompressed data => coded = true ∧ (RunLength.compress data).length < 65536
  | rasterLineShort data => coded = false ∧ data.length < 256
  | _ => True

/-- Whether raster lines are coded behind the call; nothing turns that off again. -/
def codedAfter (coded : Bool) : Call → Bool
  | setCompression enabled => coded || enabled
  | _ => coded

/-- What the call is meant to draw. -/
def draw (o : Options) (s : Sheet) : Call → Sheet
  | setting code _ => if code = 0x50 then { s with pen := s.pen.startPage } else s
  | continuousPage => { s with pen := s.pen.startPage }
  | relativeMove dots => { s with pen := s.pen.moveRight dots }
  | bitImage columns => columns.foldl (fun s t => s.drawTriple o t) s
  | bitImageWithMode _ columns => columns.foldl (fun s t => s.drawTriple o t) s
  | rasterLine data => s.drawLine o data
  | rasterLineCompressed data => s.drawLine o data
  | rasterLineShort data => s.drawLine o data
  | blankLine => s.drawBlank o
  | setCompression enabled => if enabled then { s with pen := s.pen.compress } else s
  | formFeed => { s with pen := s.pen.formFeed o.profile.formFeedDots }
  | carriageReturn => { s with pen := s.pen.carriageReturn }
  | lineFeed => { s with pen := s.pen.lineFeed o.profile.lineFeedDots }
  | reset | statusRequest | printFeed => s

/-- The command that a call writes, as the reader gives it back. -/
def command : Call → Command
  | reset => .reset
  | setting code operands => .setting code operands
  | continuousPage => .setting 0x50 []
  | statusRequest => .setting 0x53 []
  | relativeMove dots => .relativeMove dots
  | bitImage columns => .bitImage bitImageMode columns.length (columns.flatMap Triple.octets)
  | bitImageWithMode mode columns => .bitImage mode columns.length (columns.flatMap Triple.octets)
  | rasterLine data => .rasterLine .long data.length data
  | rasterLineCompressed data => .rasterLine .long (RunLength.compress data).length data
  | rasterLineShort data => .rasterLine .short data.length data
  | blankLine => .blankLine
  | setCompression enabled => .compression (if enabled then runLengthKind else 0)
  | printFeed => .printFeed 0x1A
  | formFeed => .formFeed
  | carriageReturn => .carriageReturn
  | lineFeed => .lineFeed

end Call

variable {g : Grammar}

theorem bitImageWithMode_spells {mode : UInt8} {columns : List Triple}
    (accepted : mode = bitImageMode ∨ g.lenient = true) (h : columns.length < 65536) :
    Spells g (bitImageWithMode mode columns)
      (.bitImage mode columns.length (columns.flatMap Triple.octets)) := by
  have hv := pairValue_ofNat columns.length h
  have hl : (columns.flatMap Triple.octets).length =
      3 * pairValue (UInt8.ofNat columns.length) (UInt8.ofNat (columns.length / 256)) := by
    rw [hv, Sheet.octets_length]
  have hs := Spells.bitImage accepted hl
  rw [hv] at hs
  exact hs

theorem rasterLine_spells {payload line : Octets} (h : payload.length < 65536)
    (data : Payload g.compressed payload.length payload line) :
    Spells g (rasterLine payload) (.rasterLine .long payload.length line) := by
  -- The constructor counts in the two written octets, so the length is put back afterwards.
  have hv := pairValue_ofNat payload.length h
  have hs := @Spells.rasterLine g (UInt8.ofNat payload.length) (UInt8.ofNat (payload.length / 256))
    payload line (hv.symm ▸ data)
  rw [hv] at hs
  exact hs

theorem rasterLineShort_spells {payload line : Octets} (h : payload.length < 256)
    (data : Payload g.compressed payload.length payload line) :
    Spells g (rasterLineShort payload) (.rasterLine .short payload.length line) := by
  have hv : (UInt8.ofNat payload.length).toNat = payload.length := UInt8.toNat_ofNat_of_lt' h
  have hs := @Spells.rasterLineShort g 0 (UInt8.ofNat payload.length) payload line (hv.symm ▸ data)
  rw [hv] at hs
  exact hs

theorem compress_payload (data : Octets) :
    Payload true (RunLength.compress data).length (RunLength.compress data) data := by
  obtain ⟨words, runs, hw, hs, hf, he⟩ := RunLength.compress_spelt data
  have h := Payload.of_fills hs hf
  rw [← hw, he] at h
  exact h

namespace Call

theorem spells {lenient coded : Bool} {call : Call} (h : call.Fits lenient coded) :
    Spells ⟨coded, lenient⟩ call.octets call.command := by
  cases call with
  | reset => exact .reset
  | setting code operands => exact .setting h
  | continuousPage => exact .setting rfl
  | statusRequest => exact .setting rfl
  | relativeMove dots =>
      have hs := Spells.relativeMove (g := ⟨coded, lenient⟩) (UInt8.ofNat dots)
        (UInt8.ofNat (dots / 256))
      rw [pairValue_ofNat dots h] at hs
      exact hs
  | bitImage columns => exact bitImageWithMode_spells (.inl rfl) h
  | bitImageWithMode mode columns => exact bitImageWithMode_spells h.1 h.2
  | rasterLine data =>
      obtain ⟨rfl, hl⟩ := h
      exact rasterLine_spells hl (.plain rfl)
  | rasterLineCompressed data =>
      obtain ⟨rfl, hl⟩ := h
      exact rasterLine_spells hl (compress_payload data)
  | rasterLineShort data =>
      obtain ⟨rfl, hl⟩ := h
      exact rasterLineShort_spells hl (.plain rfl)
  | blankLine => exact .blankLine
  | setCompression enabled => exact .compression _
  | printFeed => exact .printFeed (.inl rfl)
  | formFeed => exact .formFeed
  | carriageReturn => exact .carriageReturn
  | lineFeed => exact .lineFeed

theorem command_modeAfter (coded : Bool) (call : Call) :
    call.command.modeAfter coded = call.codedAfter coded := by
  cases call with
  | setCompression enabled => cases enabled <;> rfl
  | _ => rfl

theorem setting_continuousPage (code : UInt8) :
    Setting.ofByte code = .continuousPage ↔ code = 0x50 := by
  constructor
  · intro h
    unfold Setting.ofByte at h
    split at h <;> first | rfl | cases h
  · rintro rfl
    rfl

/-- The reader's command draws what the call means. -/
theorem perform_command {o : Options} {s : Sheet} (h : s.pen.Placed) (call : Call) :
    s.perform o call.command = call.draw o s := by
  cases call with
  | setting code operands =>
      change Sheet.mk (if Setting.ofByte code = .continuousPage then _ else _) _ = _
      simp only [draw, setting_continuousPage]
      split <;> rfl
  | setCompression enabled => cases enabled <;> rfl
  | bitImage columns => exact Sheet.perform_bitImage o bitImageMode _ columns h
  | bitImageWithMode mode columns => exact Sheet.perform_bitImage o mode _ columns h
  | rasterLine data => exact Sheet.perform_rasterLine o .long _ data s
  | rasterLineCompressed data => exact Sheet.perform_rasterLine o .long _ data s
  | rasterLineShort data => exact Sheet.perform_rasterLine o .short _ data s
  | blankLine => exact Sheet.perform_blankLine o s
  | _ => rfl

theorem foldl_perform {o : Options} (calls : List Call) {s : Sheet} (h : s.pen.Placed) :
    (calls.map command).foldl (Sheet.perform o) s = calls.foldl (draw o) s := by
  induction calls generalizing s with
  | nil => rfl
  | cons call calls ih =>
      rw [List.map_cons, List.foldl_cons, List.foldl_cons, ih (Sheet.perform_placed h _),
        perform_command h]

end Call

/-! ### Strips -/

/-- Strips below one another in column `x` from row `y` on. -/
def columnStrips (x y : Nat) (dots : Octets) : List Strip :=
  dots.zipIdx.map fun (dots, i) => ⟨x, y + stripHeight * i, dots⟩

def fillerStrips (o : Options) (x y : Nat) (dots : Octets) : List Strip :=
  if o.drawFiller then columnStrips x y dots else []

def tripleStrips (o : Options) (x y : Nat) (t : Triple) : List Strip :=
  columnStrips x y t.octets ++ fillerStrips o (x + 1) y (List.replicate 3 bitImageFiller) ++
    fillerStrips o x (y + 3 * stripHeight) [bitImageFiller]

def lineStrips (o : Options) (x : Nat) (line : Octets) : List Strip :=
  columnStrips x 0 line ++ fillerStrips o (x + 1) 0 (List.replicate line.length rasterFiller)

def blankStrips (o : Options) (x : Nat) : List Strip :=
  columnStrips x 0 (List.replicate o.profile.blankLineStrips 0) ++
    fillerStrips o (x + 1) 0 (List.replicate blankLineFillerStrips rasterFiller)

/-- The strips that a call paints with the pen where it is, in order. -/
def Call.strips (o : Options) (pen : Pen) : Call → List Strip
  | bitImage columns | bitImageWithMode _ columns =>
    columns.zipIdx.flatMap fun (t, i) => tripleStrips o (pen.xpos + i) pen.ypos t
  | rasterLine data | rasterLineCompressed data | rasterLineShort data => lineStrips o pen.xpos data
  | blankLine => blankStrips o pen.xpos
  | _ => []

def strips (o : Options) : Sheet → List Call → List Strip
  | _, [] => []
  | s, call :: calls => call.strips o s.pen ++ strips o (call.draw o s) calls

namespace Call

end Call
/-! ### Whole jobs -/

/-- The calls fit one after the other, each in the mode that the ones before it have set. -/
def Fitting (lenient : Bool) : Bool → List Call → Prop
  | _, [] => True
  | coded, call :: calls => call.Fits lenient coded ∧ Fitting lenient (call.codedAfter coded) calls

theorem Fitting.sentence {lenient coded : Bool} {calls : List Call} (h : Fitting lenient coded calls) :
    ∃ last, Sentence lenient coded (calls.map Call.octets) (calls.map Call.command) last := by
  induction calls generalizing coded with
  | nil => exact ⟨coded, .nil coded⟩
  | cons call calls ih =>
      obtain ⟨last, hs⟩ := ih h.2
      rw [← call.command_modeAfter] at hs
      exact ⟨last, .cons (Call.spells h.1) hs⟩

def stream (calls : List Call) : Octets := calls.flatMap Call.octets

end LabelStream.Builder
