import LabelStream.Command.Reader
import LabelStream.Proofs.Runs

/-! The commands as a language, written down without the reader, and what a reading says about the
bytes at the cursor: a whole word of the language, the start of one, or bytes that start none. -/
namespace LabelStream

open RunLength (Spelt Fills Run)

/-- The bytes behind the length field of a raster line, and the line that they stand for. While
compression is on the length counts bytes of the code, and only the last run reaches it. -/
inductive Payload : Bool → Nat → Octets → Octets → Prop
  | plain {length : Nat} {line : Octets} (count : line.length = length) :
      Payload false length line line
  | coded {length : Nat} {words : List Octets} {runs : List Run}
      (spelt : List.Forall₂ Spelt words runs) (reached : length ≤ words.flatten.length)
      (last : ∀ before word, words = before ++ [word] → before.flatten.length < length) :
      Payload true length words.flatten (runs.flatMap Run.expand)

theorem Payload.of_fills {length : Nat} {words : List Octets} {runs : List Run}
    (spelt : List.Forall₂ Spelt words runs) (fills : Fills length words) :
    Payload true length words.flatten (runs.flatMap Run.expand) := by
  have h := (RunLength.fills_iff (RunLength.words_ne_nil spelt)).mp fills
  exact .coded spelt h.1 h.2

/-- The bytes of a complete command. -/
inductive Spells (g : Grammar) : Octets → Command → Prop
  | reset : Spells g [escapeByte, 0x40] .reset
  | relativeMove (low high : UInt8) :
      Spells g [escapeByte, 0x5C, low, high] (.relativeMove (pairValue low high))
  | setting {code : UInt8} {operands : Octets}
      (count : operands.length = (Setting.ofByte code).operandCount) :
      Spells g (escapeByte :: 0x69 :: code :: operands) (.setting code operands)
  | bitImage {mode low high : UInt8} {dots : Octets}
      (accepted : mode = bitImageMode ∨ g.lenient = true)
      (count : dots.length = 3 * pairValue low high) :
      Spells g (escapeByte :: 0x2A :: mode :: low :: high :: dots)
        (.bitImage mode (pairValue low high) dots)
  | rasterLine {low high : UInt8} {payload line : Octets}
      (data : Payload g.compressed (pairValue low high) payload line) :
      Spells g (0x47 :: low :: high :: payload) (.rasterLine .long (pairValue low high) line)
  | rasterLineShort {ignored length : UInt8} {payload line : Octets}
      (data : Payload g.compressed length.toNat payload line) :
      Spells g (0x67 :: ignored :: length :: payload) (.rasterLine .short length.toNat line)
  | compression (kind : UInt8) : Spells g [0x4D, kind] (.compression kind)
  | blankLine : Spells g [0x5A] .blankLine
  | printFeed {code : UInt8} (known : code = 0x1A ∨ code = 0x03) : Spells g [code] (.printFeed code)
  | formFeed : Spells g [0x0C] .formFeed
  | carriageReturn : Spells g [0x0D] .carriageReturn
  | lineFeed : Spells g [0x0A] .lineFeed

def commandBytes : List UInt8 := [escapeByte, 0x47, 0x67, 0x4D, 0x5A, 0x1A, 0x03, 0x0C, 0x0D, 0x0A]

def escapeBytes : List UInt8 := [0x40, 0x5C, 0x69, 0x2A]

/-- Bytes that no complete command starts with, the offset of the one to blame, and why. -/
inductive Refused (g : Grammar) : Octets → Nat → UInt8 → FaultKind → Prop
  | opcode {byte : UInt8} (tail : Octets) (zero : byte ≠ 0) (unknown : byte ∉ commandBytes) :
      Refused g (byte :: tail) 0 byte .unrecognizedOpcode
  | escape {byte : UInt8} (tail : Octets) (unknown : byte ∉ escapeBytes) :
      Refused g (escapeByte :: byte :: tail) 1 byte .unrecognizedEscapeSequence
  | graphics {mode : UInt8} (tail : Octets) (other : mode ≠ bitImageMode)
      (strict : g.lenient = false) :
      Refused g (escapeByte :: 0x2A :: mode :: tail) 2 mode .unsupportedGraphicsMode

theorem Spells.ne_nil {g : Grammar} {word : Octets} {command : Command} (h : Spells g word command) :
    word ≠ [] := by
  cases h <;> exact List.cons_ne_nil _ _

theorem Opcode.ofByte_unknown {byte : UInt8} (zero : byte ≠ 0) (h : byte ∉ commandBytes) :
    Opcode.ofByte byte = .unknown byte := by
  unfold Opcode.ofByte
  split
  all_goals first | rfl | exact absurd (by decide) h | exact absurd rfl zero

theorem Escape.ofByte_unknown {byte : UInt8} (h : byte ∉ escapeBytes) :
    Escape.ofByte byte = .unknown byte := by
  unfold Escape.ofByte
  split
  all_goals first | rfl | exact absurd (by decide) h

namespace Grammar

theorem readRaster_payload {g : Grammar} {length : Nat} {payload line : Octets}
    (h : Payload g.compressed length payload line) (form : RasterForm) (p : Nat) (rest : Octets) :
    g.readRaster form length ⟨p, payload ++ rest⟩ =
      .whole (.rasterLine form length line) ⟨p + payload.length, rest⟩ := by
  unfold readRaster
  generalize g.compressed = compressed at h
  cases h with
  | plain count =>
      have ht := Cursor.take_word p payload rest
      rw [count] at ht
      simp only [Bool.false_eq_true, if_false, ht, count, if_true]
  | coded spelt reached last =>
      have fills := (RunLength.fills_iff (RunLength.words_ne_nil spelt)).mpr ⟨reached, last⟩
      simp only [if_true, RunLength.expand_words spelt fills, RunLength.Expansion.output,
        List.append_nil]

theorem readRaster_cases (g : Grammar) (form : RasterForm) (length : Nat) (c : Cursor) :
    (∃ payload line rest, c.rest = payload ++ rest ∧ Payload g.compressed length payload line) ∨
    (∃ line more longer, more ≠ [] ∧ Payload g.compressed length (c.rest ++ more) longer ∧
      g.readRaster form length c = .cut (.body (.rasterLine form length line)) c.last) := by
  unfold readRaster
  generalize g.compressed = compressed
  cases compressed with
  | false =>
      rcases Cursor.take_cases length c with ⟨line, rest, hc, hl, _⟩ | ⟨hl, ht⟩
      · exact .inl ⟨line, line, rest, hc, .plain hl⟩
      · obtain ⟨more, hm, hmore⟩ := exists_missing hl
        refine .inr ⟨c.rest, more, c.rest ++ more, hm, .plain hmore, ?_⟩
        simp only [Bool.false_eq_true, if_false, ht, if_neg (Nat.ne_of_lt hl)]
  | true =>
      rcases RunLength.readRuns_cases (c.position + length) [] c with
        ⟨words, runs, rest, hc, hs, hf, _⟩ | ⟨words, runs, part, arrived, hc, hs, hf, begun, he⟩
      · rw [Nat.add_sub_cancel_left] at hf
        exact .inl ⟨words.flatten, _, rest, hc, .of_fills hs hf⟩
      · rw [Nat.add_sub_cancel_left] at hf
        obtain ⟨more, run, hm, hw⟩ := begun.completed
        obtain ⟨filling, fillers, hfs, hff⟩ :=
          RunLength.exists_filling (length - words.flatten.length - (part ++ more).length)
        have hall : c.rest ++ (more ++ filling.flatten) =
            (words ++ (part ++ more) :: filling).flatten := by
          simp only [hc, List.flatten_append, List.flatten_cons, List.append_assoc]
        have hp : Payload true length (words ++ (part ++ more) :: filling).flatten
            ((runs ++ run :: fillers).flatMap Run.expand) :=
          .of_fills (List.rel_append hs (.cons hw hfs))
            (RunLength.Fills.prepend hf ⟨Nat.sub_pos_of_lt hf, hff⟩)
        refine .inr ⟨runs.flatMap Run.expand ++ arrived, more ++ filling.flatten, _,
          List.append_ne_nil_of_left_ne_nil hm _, hall ▸ hp, ?_⟩
        simp only [if_true, RunLength.expand, he, Bool.false_eq_true, if_false]
        rfl

theorem read_escape (g : Grammar) (p : Nat) (rest : Octets) :
    g.read ⟨p, escapeByte :: rest⟩ = g.readEscape ⟨p + 1, rest⟩ := rfl

theorem read_setting (g : Grammar) (p : Nat) (rest : Octets) :
    g.read ⟨p, escapeByte :: 0x69 :: rest⟩ = readSetting ⟨p + 2, rest⟩ := rfl

theorem read_bitImage (g : Grammar) (p : Nat) (rest : Octets) :
    g.read ⟨p, escapeByte :: 0x2A :: rest⟩ = g.readBitImage ⟨p + 2, rest⟩ := rfl

theorem read_rasterLine (g : Grammar) (p : Nat) (low high : UInt8) (rest : Octets) :
    g.read ⟨p, 0x47 :: low :: high :: rest⟩ =
      g.readRaster .long (pairValue low high) ⟨p + 3, rest⟩ := rfl

theorem read_rasterLineShort (g : Grammar) (p : Nat) (ignored length : UInt8) (rest : Octets) :
    g.read ⟨p, 0x67 :: ignored :: length :: rest⟩ =
      g.readRaster .short length.toNat ⟨p + 3, rest⟩ := rfl

/-- A complete command is read as what it spells, whatever follows it. -/
theorem read_spells {g : Grammar} {word : Octets} {command : Command} (h : Spells g word command)
    (p : Nat) (rest : Octets) :
    g.read ⟨p, word ++ rest⟩ = .whole command ⟨p + word.length, rest⟩ := by
  cases h with
  | reset => rfl
  | relativeMove low high => rfl
  | @setting code operands count =>
      have ht := Cursor.take_word (p + 3) operands rest
      rw [count] at ht
      simp only [List.cons_append, read_setting, readSetting, Cursor.next, ht, count, if_true,
        List.length_cons]
      congr 2
      omega
  | @bitImage mode low high dots accepted count =>
      have ht := Cursor.take_word (p + 5) dots rest
      rw [count] at ht
      have ha : ¬ (mode ≠ bitImageMode ∧ g.lenient = false) := by
        rintro ⟨other, strict⟩
        rcases accepted with rfl | lenient
        · exact other rfl
        · rw [strict] at lenient
          cases lenient
      simp only [List.cons_append, read_bitImage, readBitImage, Cursor.next, if_neg ha,
        Cursor.nextPair, ht, count, if_true, List.length_cons]
      congr 2
      omega
  | @rasterLine low high payload line data =>
      simp only [List.cons_append, read_rasterLine, readRaster_payload data, List.length_cons]
      congr 2
      omega
  | @rasterLineShort ignored length payload line data =>
      simp only [List.cons_append, read_rasterLineShort, readRaster_payload data, List.length_cons]
      congr 2
      omega
  | compression kind => rfl
  | blankLine => rfl
  | printFeed known => rcases known with rfl | rfl <;> rfl
  | formFeed => rfl
  | carriageReturn => rfl
  | lineFeed => rfl

theorem read_terminator (g : Grammar) (p : Nat) (rest : Octets) :
    g.read ⟨p, 0 :: rest⟩ = .terminator ⟨p + 1, rest⟩ := rfl

theorem read_refused {g : Grammar} {bytes : Octets} {offset : Nat} {byte : UInt8} {kind : FaultKind}
    (h : Refused g bytes offset byte kind) (p : Nat) :
    g.read ⟨p, bytes⟩ =
      .fault ⟨p + offset, some byte, kind⟩ ⟨p + offset + 1, bytes.drop (offset + 1)⟩ := by
  cases h with
  | opcode tail zero unknown =>
      simp only [read, Cursor.next, Opcode.ofByte_unknown zero unknown]
      rfl
  | escape tail unknown =>
      simp only [read_escape, readEscape, Cursor.next, Escape.ofByte_unknown unknown]
      rfl
  | graphics tail other strict =>
      simp only [read_bitImage, readBitImage, Cursor.next, if_pos (And.intro other strict)]
      rfl

/-- What can stand at a cursor. Where the data ends inside a command the reader says so. -/
inductive Standing (g : Grammar) (c : Cursor) : Prop
  | nothing (bytes : c.rest = [])
  | whole (word : Octets) (command : Command) (rest : Octets) (bytes : c.rest = word ++ rest)
      (spelt : Spells g word command)
  | cut (fragment : Fragment) (more : Octets) (command : Command) (missing : more ≠ [])
      (spelt : Spells g (c.rest ++ more) command) (reading : g.read c = .cut fragment c.last)
  | terminator (rest : Octets) (bytes : c.rest = 0 :: rest)
  | refused (offset : Nat) (byte : UInt8) (kind : FaultKind)
      (refusal : Refused g c.rest offset byte kind)

theorem standing_setting (g : Grammar) (p : Nat) (bytes : Octets) :
    Standing g ⟨p, escapeByte :: 0x69 :: bytes⟩ := by
  rcases bytes with _ | ⟨code, bytes⟩
  · exact .cut .header [0x50] _ (List.cons_ne_nil _ _) (.setting rfl) rfl
  rcases Cursor.take_cases (Setting.ofByte code).operandCount ⟨p + 3, bytes⟩ with
    ⟨operands, rest, hb, hl, _⟩ | ⟨hl, ht⟩
  · exact .whole (escapeByte :: 0x69 :: code :: operands) _ rest
      (congrArg (escapeByte :: 0x69 :: code :: ·) hb) (.setting hl)
  · obtain ⟨more, hm, hc⟩ := exists_missing hl
    refine .cut (.body (.setting code bytes)) more _ hm (.setting hc) ?_
    simp only [read_setting, readSetting, Cursor.next, ht, if_neg (Nat.ne_of_lt hl)]
    simp only [Cursor.last, List.length_cons]
    congr 2
    omega

theorem standing_bitImage (g : Grammar) (p : Nat) (bytes : Octets) :
    Standing g ⟨p, escapeByte :: 0x2A :: bytes⟩ := by
  rcases bytes with _ | ⟨mode, bytes⟩
  · exact .cut .graphics [bitImageMode, 0, 0] _ (List.cons_ne_nil _ _) (.bitImage (.inl rfl) rfl) rfl
  by_cases hr : mode ≠ bitImageMode ∧ g.lenient = false
  · exact .refused 2 mode _ (.graphics bytes hr.1 hr.2)
  have accepted : mode = bitImageMode ∨ g.lenient = true := by
    rcases Decidable.not_and_iff_not_or_not.mp hr with h | h
    · exact .inl (Decidable.not_not.mp h)
    · exact .inr (eq_true_of_ne_false h)
  rcases bytes with _ | ⟨low, _ | ⟨high, bytes⟩⟩
  · refine .cut .graphics [0, 0] _ (List.cons_ne_nil _ _) (.bitImage accepted rfl) ?_
    simp only [read_bitImage, readBitImage, Cursor.next, if_neg hr, Cursor.nextPair]
    rfl
  · refine .cut .graphics (0 :: List.replicate (3 * pairValue low 0) 0) _ (List.cons_ne_nil _ _)
      (.bitImage accepted List.length_replicate) ?_
    simp only [read_bitImage, readBitImage, Cursor.next, if_neg hr, Cursor.nextPair]
    rfl
  rcases Cursor.take_cases (3 * pairValue low high) ⟨p + 5, bytes⟩ with
    ⟨dots, rest, hb, hl, _⟩ | ⟨hl, ht⟩
  · exact .whole (escapeByte :: 0x2A :: mode :: low :: high :: dots) _ rest
      (congrArg (escapeByte :: 0x2A :: mode :: low :: high :: ·) hb) (.bitImage accepted hl)
  · obtain ⟨more, hm, hc⟩ := exists_missing hl
    refine .cut (.body (.bitImage mode (pairValue low high) bytes)) more _ hm (.bitImage accepted hc) ?_
    simp only [read_bitImage, readBitImage, Cursor.next, if_neg hr, Cursor.nextPair, ht,
      if_neg (Nat.ne_of_lt hl), Cursor.last, List.length_cons]
    congr 2
    omega

theorem standing_escape (g : Grammar) (p : Nat) (bytes : Octets) :
    Standing g ⟨p, escapeByte :: bytes⟩ := by
  rcases bytes with _ | ⟨byte, bytes⟩
  · exact .cut .header [0x40] _ (List.cons_ne_nil _ _) .reset rfl
  by_cases known : byte ∈ escapeBytes
  case neg => exact .refused 1 byte _ (.escape bytes known)
  simp only [escapeBytes, List.mem_cons, List.not_mem_nil, or_false] at known
  rcases known with rfl | rfl | rfl | rfl
  · exact .whole [escapeByte, 0x40] _ bytes rfl .reset
  · rcases bytes with _ | ⟨low, _ | ⟨high, bytes⟩⟩
    · exact .cut .header [0, 0] _ (List.cons_ne_nil _ _) (.relativeMove 0 0) rfl
    · exact .cut .header [0] _ (List.cons_ne_nil _ _) (.relativeMove low 0) rfl
    · exact .whole [escapeByte, 0x5C, low, high] _ bytes rfl (.relativeMove low high)
  · exact standing_setting g p bytes
  · exact standing_bitImage g p bytes

/-- Every payload length can be met. -/
theorem exists_payload (compressed : Bool) (length : Nat) :
    ∃ payload line, Payload compressed length payload line := by
  cases compressed with
  | false => exact ⟨List.replicate length 0, _, .plain List.length_replicate⟩
  | true =>
      obtain ⟨words, runs, hs, hf⟩ := RunLength.exists_filling length
      exact ⟨_, _, .of_fills hs hf⟩

/-- Behind its header a raster line is all payload, in either spelling. -/
theorem standing_raster {g : Grammar} {form : RasterForm} {length p : Nat} (head : Octets)
    (reads : ∀ bytes, g.read ⟨p, head ++ bytes⟩ = g.readRaster form length ⟨p + head.length, bytes⟩)
    (spells : ∀ payload line, Payload g.compressed length payload line →
      Spells g (head ++ payload) (.rasterLine form length line)) (bytes : Octets) :
    Standing g ⟨p, head ++ bytes⟩ := by
  rcases g.readRaster_cases form length ⟨p + head.length, bytes⟩ with
    ⟨payload, line, rest, hb, data⟩ | ⟨line, more, longer, hm, data, hr⟩
  · change bytes = payload ++ rest at hb
    refine .whole (head ++ payload) _ rest ?_ (spells payload line data)
    rw [List.append_assoc, ← hb]
  · refine .cut (.body (.rasterLine form length line)) more (.rasterLine form length longer) hm ?_ ?_
    · rw [List.append_assoc]
      exact spells _ longer data
    · rw [reads, hr]
      simp only [Cursor.last, List.length_append, Nat.add_assoc]

theorem standing_rasterLine (g : Grammar) (p : Nat) (bytes : Octets) :
    Standing g ⟨p, 0x47 :: bytes⟩ := by
  rcases bytes with _ | ⟨low, _ | ⟨high, bytes⟩⟩
  · obtain ⟨payload, line, data⟩ := exists_payload g.compressed (pairValue 0 0)
    exact .cut .header (0 :: 0 :: payload) _ (List.cons_ne_nil _ _) (.rasterLine data) rfl
  · obtain ⟨payload, line, data⟩ := exists_payload g.compressed (pairValue low 0)
    exact .cut .header (0 :: payload) _ (List.cons_ne_nil _ _) (.rasterLine data) rfl
  · exact standing_raster [0x47, low, high] (g.read_rasterLine p low high)
      (fun _ _ data => .rasterLine data) bytes

theorem standing_rasterLineShort (g : Grammar) (p : Nat) (bytes : Octets) :
    Standing g ⟨p, 0x67 :: bytes⟩ := by
  obtain ⟨payload, line, data⟩ := exists_payload g.compressed (UInt8.toNat 0)
  rcases bytes with _ | ⟨ignored, _ | ⟨length, bytes⟩⟩
  · exact .cut .header (0 :: 0 :: payload) _ (List.cons_ne_nil _ _) (.rasterLineShort data) rfl
  · exact .cut .header (0 :: payload) _ (List.cons_ne_nil _ _) (.rasterLineShort data) rfl
  · exact standing_raster [0x67, ignored, length] (g.read_rasterLineShort p ignored length)
      (fun _ _ data => .rasterLineShort data) bytes

/-- One of these stands at every cursor. -/
theorem standing (g : Grammar) (c : Cursor) : Standing g c := by
  rcases c with ⟨p, _ | ⟨byte, bytes⟩⟩
  · exact .nothing rfl
  by_cases zero : byte = 0
  · subst zero
    exact .terminator bytes rfl
  by_cases known : byte ∈ commandBytes
  case neg => exact .refused 0 byte _ (.opcode bytes zero known)
  simp only [commandBytes, List.mem_cons, List.not_mem_nil, or_false] at known
  rcases known with rfl | rfl | rfl | rfl | rfl | rfl | rfl | rfl | rfl | rfl
  · exact standing_escape g p bytes
  · exact standing_rasterLine g p bytes
  · exact standing_rasterLineShort g p bytes
  · rcases bytes with _ | ⟨kind, bytes⟩
    · exact .cut .header [0] _ (List.cons_ne_nil _ _) (.compression 0) rfl
    · exact .whole [0x4D, kind] _ bytes rfl (.compression kind)
  · exact .whole [0x5A] _ bytes rfl .blankLine
  · exact .whole [0x1A] _ bytes rfl (.printFeed (.inl rfl))
  · exact .whole [0x03] _ bytes rfl (.printFeed (.inr rfl))
  · exact .whole [0x0C] _ bytes rfl .formFeed
  · exact .whole [0x0D] _ bytes rfl .carriageReturn
  · exact .whole [0x0A] _ bytes rfl .lineFeed

/-- What a reading has found at the cursor. -/
inductive Found (g : Grammar) (c : Cursor) : Reading → Prop
  | nothing (bytes : c.rest = []) : Found g c .nothing
  | whole {word rest : Octets} {command : Command} (bytes : c.rest = word ++ rest)
      (spelt : Spells g word command) : Found g c (.whole command ⟨c.position + word.length, rest⟩)
  | cut {fragment : Fragment} {more : Octets} {command : Command} (missing : more ≠ [])
      (spelt : Spells g (c.rest ++ more) command) : Found g c (.cut fragment c.last)
  | terminator {rest : Octets} (bytes : c.rest = 0 :: rest) :
      Found g c (.terminator ⟨c.position + 1, rest⟩)
  | refused {offset : Nat} {byte : UInt8} {kind : FaultKind}
      (refusal : Refused g c.rest offset byte kind) :
      Found g c (.fault ⟨c.position + offset, some byte, kind⟩
        ⟨c.position + offset + 1, c.rest.drop (offset + 1)⟩)

theorem found (g : Grammar) (c : Cursor) : g.Found c (g.read c) := by
  rcases c with ⟨p, bytes⟩
  cases g.standing ⟨p, bytes⟩ with
  | nothing hb =>
      change bytes = [] at hb
      subst hb
      exact .nothing rfl
  | whole word command rest hb spelt =>
      change bytes = word ++ rest at hb
      subst hb
      rw [read_spells spelt]
      exact .whole rfl spelt
  | cut fragment more command missing spelt reading =>
      rw [reading]
      exact .cut missing spelt
  | terminator rest hb =>
      change bytes = 0 :: rest at hb
      subst hb
      rw [read_terminator]
      exact .terminator rfl
  | refused offset byte kind refusal =>
      rw [read_refused refusal]
      exact .refused refusal

/-- What is read whole was spelt there. -/
theorem spells_of_whole {g : Grammar} {c after : Cursor} {command : Command}
    (h : g.read c = .whole command after) :
    ∃ word, c.rest = word ++ after.rest ∧ Spells g word command := by
  have hfound := g.found c
  rw [h] at hfound
  cases hfound with
  | whole bytes spelt => exact ⟨_, bytes, spelt⟩

/-- A command that the data cut short leaves no byte. -/
theorem last_of_cut {g : Grammar} {c after : Cursor} {fragment : Fragment}
    (h : g.read c = .cut fragment after) : after = c.last := by
  have hfound := g.found c
  rw [h] at hfound
  cases hfound with
  | cut missing spelt => rfl

end Grammar
end LabelStream
