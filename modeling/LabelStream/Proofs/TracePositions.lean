import LabelStream.Proofs.Steering
import LabelStream.Proofs.Turns
import LabelStream.Proofs.Wording

/-! Where the events of a trace sit. What a command tells lies between its first byte and the cursor
behind it, so events come in the order of the bytes, and only the summary stands behind them all. -/
namespace LabelStream

/-- Events from offset `p` on and before `q`, each further on than the last, none of them a summary. -/
structure Ascends (p q : Nat) (events : List Event) : Prop where
  increasing : events.Pairwise (·.position < ·.position)
  inside : ∀ e ∈ events, p ≤ e.position ∧ e.position < q
  plain : ∀ e ∈ events, e.note.isSummary = false

namespace Ascends

variable {p q r : Nat} {e : Event} {events more : List Event}

theorem nil (p q : Nat) : Ascends p q [] :=
  ⟨.nil, fun _ h => absurd h List.not_mem_nil, fun _ h => absurd h List.not_mem_nil⟩

theorem cons (h : Ascends (e.position + 1) q events) (first : p ≤ e.position) (last : e.position < q)
    (plain : e.note.isSummary = false) : Ascends p q (e :: events) := by
  refine ⟨?increasing, ?inside, ?plain⟩
  case increasing => exact List.pairwise_cons.mpr ⟨fun x hx => (h.inside x hx).1, h.increasing⟩
  case inside =>
    intro x hx
    rcases List.mem_cons.mp hx with rfl | hx
    · exact ⟨first, last⟩
    · have hi := h.inside x hx
      exact ⟨by omega, hi.2⟩
  case plain => exact List.forall_mem_cons.mpr ⟨plain, h.plain⟩

theorem single (first : p ≤ e.position) (last : e.position < q) (plain : e.note.isSummary = false) :
    Ascends p q [e] := (nil _ _).cons first last plain

theorem append (h : Ascends p q events) (hm : Ascends q r more) (hpq : p ≤ q) (hqr : q ≤ r) :
    Ascends p r (events ++ more) := by
  refine ⟨?increasing, ?inside, ?plain⟩
  case increasing =>
    refine List.pairwise_append.mpr ⟨h.increasing, hm.increasing, ?_⟩
    intro x hx y hy
    exact Nat.lt_of_lt_of_le (h.inside x hx).2 (hm.inside y hy).1
  case inside =>
    intro x hx
    rcases List.mem_append.mp hx with hx | hx
    · exact ⟨(h.inside x hx).1, Nat.lt_of_lt_of_le (h.inside x hx).2 hqr⟩
    · exact ⟨Nat.le_trans hpq (hm.inside x hx).1, (hm.inside x hx).2⟩
  case plain =>
    intro x hx
    rcases List.mem_append.mp hx with hx | hx
    · exact h.plain x hx
    · exact hm.plain x hx

/-- One event a byte, each at the offset of its byte. -/
theorem bytes {f : UInt8 × Nat → Event} (position : ∀ byte i, (f (byte, i)).position = p + i)
    (plain : ∀ byte i, (f (byte, i)).note.isSummary = false) (octets : Octets) (k : Nat) :
    Ascends (p + k) (p + k + octets.length) ((octets.zipIdx k).map f) := by
  induction octets generalizing k with
  | nil => exact nil _ _
  | cons byte octets ih =>
      rw [List.zipIdx_cons, List.map_cons, List.length_cons]
      refine cons ?rest (Nat.le_of_eq (position byte k).symm) ?last (plain byte k)
      case rest =>
        have h := ih (k + 1)
        rw [← Nat.add_assoc, Nat.add_assoc _ 1, Nat.add_comm 1] at h
        rw [position]
        exact h
      case last =>
        rw [position]
        omega

/-- An event is the only one at its offset. -/
theorem filter_position (h : events.Pairwise (·.position < ·.position)) (he : e ∈ events) :
    events.filter (·.position == e.position) = [e] := by
  induction events with
  | nil => exact absurd he List.not_mem_nil
  | cons x events ih =>
      obtain ⟨further, h⟩ := List.pairwise_cons.mp h
      rcases List.mem_cons.mp he with rfl | he
      · have none : events.filter (·.position == e.position) = [] := by
          refine List.filter_eq_nil_iff.mpr fun y hy same => ?_
          exact Nat.ne_of_gt (further y hy) (beq_iff_eq.mp same)
        rw [List.filter_cons, if_pos (beq_self_eq_true _), none]
      · have apart : ¬ (x.position == e.position) = true := fun same =>
          Nat.ne_of_lt (further e he) (beq_iff_eq.mp same)
        rw [List.filter_cons, if_neg apart]
        exact ih h he

end Ascends

/-- How many of its bytes, from the first on, a command may tell about. -/
def Command.noted : Command → Nat
  | reset | relativeMove _ => 2
  | setting _ operands => 3 + operands.length
  | bitImage _ _ _ => 3
  | rasterLine _ _ _ | compression _ | blankLine | printFeed _ | formFeed | carriageReturn
  | lineFeed => 1

namespace Command

theorem noted_pos (command : Command) : 0 < command.noted := by
  cases command with
  | setting code operands => exact Nat.add_pos_left (by decide) _
  | _ => exact Nat.succ_pos _

theorem events_ascend {p q : Nat} {command : Command} (h : p + command.noted ≤ q) (pen : Pen) :
    Ascends p q (command.events p pen) := by
  cases command with
  | reset => exact .single (Nat.le_add_right _ _) h rfl
  | relativeMove dots => exact .single (Nat.le_add_right _ _) h rfl
  | setting code operands =>
      have hq : p + 3 + operands.length ≤ q := Nat.add_assoc p 3 _ ▸ h
      have ops : Ascends (p + 3) q (operandEvents (p + 3) operands) := by
        have hb : Ascends (p + 3 + 0) (p + 3 + 0 + operands.length) (operandEvents (p + 3) operands) :=
          Ascends.bytes (fun _ _ => rfl) (fun _ _ => rfl) operands 0
        exact ⟨hb.increasing,
          fun e he => ⟨(hb.inside e he).1, Nat.lt_of_lt_of_le (hb.inside e he).2 hq⟩, hb.plain⟩
      simp only [events]
      split
      · exact .single (Nat.le_add_right _ _) (show p + 2 < q by omega) rfl
      · exact ops.cons (Nat.le_add_right _ _) (show p + 2 < q by omega) rfl
  | bitImage mode columns dots =>
      have hq : p + 3 ≤ q := h
      have mode : Ascends (p + 2) q [⟨p + 2, .bitImage mode columns⟩] := .single (Nat.le_refl _) hq rfl
      exact mode.cons (Nat.le_add_right _ _) (show p + 1 < q by omega) rfl
  | _ => exact .single (Nat.le_refl _) h rfl

theorem events_ne_nil (p : Nat) (pen : Pen) (command : Command) : command.events p pen ≠ [] := by
  cases command with
  | setting code operands =>
      simp only [events]
      split <;> exact List.cons_ne_nil _ _
  | _ => exact List.cons_ne_nil _ _

end Command

theorem Fault.events_ne_nil (p : Nat) (f : Fault) : f.events p ≠ [] := by
  unfold events
  split <;> exact List.cons_ne_nil _ _

namespace Reading

/-- What is told of a reading that began at `p` is about the bytes that it took. -/
def Tells (p : Nat) (pen : Pen) (c : Cursor) (r : Reading) : Prop :=
  p < (r.cursor c).position ∧ Ascends p (r.cursor c).position (r.events p pen)

variable {p : Nat} {pen : Pen} {c after : Cursor}

theorem whole_tells {command : Command} (h : p + command.noted ≤ after.position) :
    (whole command after).Tells p pen c :=
  ⟨Nat.lt_of_lt_of_le (Nat.lt_add_of_pos_right command.noted_pos) h, Command.events_ascend h pen⟩

theorem body_tells {command : Command} (h : p + command.noted ≤ after.position) :
    (cut (.body command) after).Tells p pen c := whole_tells (c := c) h

theorem header_tells (h : p < after.position) : (cut .header after).Tells p pen c := ⟨h, .nil _ _⟩

theorem graphics_tells (h : p + 2 ≤ after.position) : (cut .graphics after).Tells p pen c :=
  ⟨Nat.lt_of_lt_of_le (Nat.lt_add_of_pos_right Nat.two_pos) h, .single (Nat.le_add_right _ _) h rfl⟩

end Reading

namespace Grammar

variable (g : Grammar) {p n : Nat} (pen : Pen) (c : Cursor)

theorem readRaster_tells (form : RasterForm) (length : Nat) (h : p < n) (bytes : Octets) :
    (g.readRaster form length ⟨n, bytes⟩).Tells p pen c := by
  rcases g.readRaster_cases form length ⟨n, bytes⟩ with
    ⟨payload, line, rest, hb, data⟩ | ⟨line, more, longer, _, _, hr⟩
  · change bytes = payload ++ rest at hb
    rw [hb, readRaster_payload data]
    exact Reading.whole_tells (Nat.le_trans h (Nat.le_add_right _ _))
  · rw [hr]
    exact Reading.body_tells (Nat.le_trans h (Nat.le_add_right _ _))

theorem readSetting_tells (bytes : Octets) : (readSetting ⟨p + 2, bytes⟩).Tells p pen c := by
  rcases bytes with _ | ⟨code, bytes⟩
  · exact Reading.header_tells (Nat.lt_add_of_pos_right Nat.two_pos)
  have operands : ∀ octets : Octets,
      p + (Command.setting code octets).noted ≤ p + 3 + octets.length :=
    fun octets => Nat.le_of_eq (Nat.add_assoc p 3 octets.length).symm
  simp only [readSetting, Cursor.next]
  split
  · exact Reading.whole_tells (operands _)
  · exact Reading.body_tells (operands _)

theorem readBitImage_tells (bytes : Octets) : (g.readBitImage ⟨p + 2, bytes⟩).Tells p pen c := by
  rcases bytes with _ | ⟨mode, bytes⟩
  · exact Reading.graphics_tells (Nat.le_refl _)
  simp only [readBitImage, Cursor.next]
  split
  · -- The command is told of before the mode that it is refused for.
    have refusal : Ascends (p + 2) (p + 3)
        [⟨p + 2, .fault ⟨p + 2, some mode, .unsupportedGraphicsMode⟩⟩] :=
      .single (Nat.le_refl _) (Nat.lt_succ_self _) rfl
    refine ⟨show p < p + 3 by omega, ?_⟩
    exact refusal.cons (Nat.le_add_right _ _) (show p + 1 < p + 3 by omega) rfl
  · rcases bytes with _ | ⟨low, _ | ⟨high, bytes⟩⟩
    · exact Reading.graphics_tells (Nat.le_add_right _ _)
    · exact Reading.graphics_tells (Nat.le_add_right (p + 2) 2)
    · simp only [Cursor.nextPair]
      have far : p + 3 ≤ p + 5 + (Cursor.take (3 * pairValue low high) ⟨p + 5, bytes⟩).1.length := by
        omega
      split
      · exact Reading.whole_tells far
      · exact Reading.body_tells far

theorem readEscape_tells (bytes : Octets) : (g.readEscape ⟨p + 1, bytes⟩).Tells p pen c := by
  rcases bytes with _ | ⟨byte, bytes⟩
  · exact Reading.header_tells (Nat.lt_succ_self p)
  simp only [readEscape, Cursor.next]
  cases Escape.ofByte byte with
  | reset => exact Reading.whole_tells (Nat.le_refl _)
  | relativeMove =>
      rcases bytes with _ | ⟨low, _ | ⟨high, bytes⟩⟩
      · exact Reading.header_tells (show p < p + 2 by omega)
      · exact Reading.header_tells (show p < p + 3 by omega)
      · exact Reading.whole_tells (show p + 2 ≤ p + 4 by omega)
  | setting => exact readSetting_tells pen c bytes
  | bitImage => exact g.readBitImage_tells pen c bytes
  | unknown byte =>
      exact ⟨show p < p + 2 by omega, .single (Nat.le_add_right p 1) (Nat.lt_succ_self _) rfl⟩

/-- Whatever is read at a cursor is told of between that cursor and the one behind. -/
theorem read_tells (present : c.rest ≠ []) : (g.read c).Tells c.position pen c := by
  rcases c with ⟨p, _ | ⟨byte, bytes⟩⟩
  · exact absurd rfl present
  simp only [read, Cursor.next]
  cases Opcode.ofByte byte with
  | escape => exact g.readEscape_tells pen _ bytes
  | rasterLine =>
      rcases bytes with _ | ⟨low, _ | ⟨high, bytes⟩⟩
      · exact Reading.header_tells (show p < p + 1 by omega)
      · exact Reading.header_tells (show p < p + 2 by omega)
      · exact g.readRaster_tells pen _ .long _ (show p < p + 3 by omega) bytes
  | rasterLineShort =>
      rcases bytes with _ | ⟨ignored, _ | ⟨length, bytes⟩⟩
      · exact Reading.header_tells (show p < p + 1 by omega)
      · exact Reading.header_tells (show p < p + 2 by omega)
      · exact g.readRaster_tells pen _ .short _ (show p < p + 3 by omega) bytes
  | compression =>
      rcases bytes with _ | ⟨kind, bytes⟩
      · exact Reading.header_tells (show p < p + 1 by omega)
      · exact Reading.whole_tells (show p + 1 ≤ p + 2 by omega)
  | null => exact ⟨Nat.lt_succ_self p, .single (Nat.le_refl p) (Nat.lt_succ_self p) rfl⟩
  | unknown byte => exact ⟨Nat.lt_succ_self p, .single (Nat.le_refl p) (Nat.lt_succ_self p) rfl⟩
  | _ => exact Reading.whole_tells (Nat.le_refl _)

/-- Reading moves bytes from before the cursor to behind it. -/
theorem read_length : ((g.read c).cursor c).position + ((g.read c).cursor c).rest.length =
    c.position + c.rest.length := by
  have hfound := g.found c
  generalize g.read c = r at hfound
  cases hfound with
  | nothing bytes => rfl
  | whole bytes spelt =>
      rw [bytes, List.length_append, ← Nat.add_assoc]
      rfl
  | cut missing spelt => rfl
  | terminator bytes =>
      rw [bytes]
      exact Nat.succ_add_eq_add_succ _ _
  | @refused offset byte kind refusal =>
      have hlt : offset < c.rest.length := by
        generalize c.rest = bytes at refusal
        cases refusal <;> simp only [List.length_cons] <;> omega
      change c.position + offset + 1 + (c.rest.drop (offset + 1)).length = _
      rw [List.length_drop]
      omega

end Grammar

namespace Decoder

variable (o : Options)

/-- A move takes bytes and tells of these alone. It tells nothing only where the data ended inside
the command. -/
theorem advance_tells {d : Decoder} (h : d.cursor.atEnd = false) :
    d.cursor.position < (d.advance o).1.cursor.position ∧
      Ascends d.cursor.position (d.advance o).1.cursor.position (d.advance o).2 ∧
      ((d.advance o).1.phase = .halted (.truncated d.cursor.position) ∨ (d.advance o).2 ≠ []) := by
  obtain ⟨hphase, hcursor, _, hevents⟩ := d.advance_reading o
  have present : d.cursor.rest ≠ [] := List.isEmpty_eq_false_iff.mp h
  have tells : (d.reading o).Tells d.cursor.position d.pen d.cursor := Grammar.read_tells _ _ _ present
  rw [hphase, hcursor, hevents]
  refine ⟨tells.1, tells.2, ?_⟩
  cases hr : d.reading o with
  | cut fragment after => exact .inl rfl
  | nothing => exact absurd hr (Grammar.read_ne_nothing _ present)
  | whole command after => exact .inr (command.events_ne_nil _ _)
  | terminator after => exact .inr (List.cons_ne_nil _ _)
  | fault f after => exact .inr (f.events_ne_nil _)

/-- Bytes read and bytes unread make up the capture. -/
def Covers (size : Nat) (d : Decoder) : Prop := d.cursor.position + d.cursor.rest.length = size

theorem advance_covers {size : Nat} {d : Decoder} (h : d.Covers size) :
    (d.advance o).1.Covers size := by
  unfold Covers
  rw [(d.advance_reading o).2.1]
  exact (Grammar.read_length _ d.cursor).trans h

/-- A decoder with nothing left to do stays where it is and tells nothing. -/
theorem walk_still {d : Decoder} (h : d.isFinished = true ∨ d.cursor.atEnd = true) (n : Nat) :
    (d.walk o n).1.cursor = d.cursor ∧ (d.walk o n).1.opcodes = d.opcodes ∧ (d.walk o n).2 = [] := by
  cases hf : d.isFinished with
  | true =>
      rw [walk_of_finished o hf]
      exact ⟨rfl, rfl, rfl⟩
  | false =>
      have he : d.cursor.atEnd = true := h.resolve_left (by rw [hf]; exact Bool.false_ne_true)
      cases n with
      | zero =>
          rw [walk_of_atEnd o hf he]
          exact ⟨rfl, rfl, rfl⟩
      | succ n =>
          rw [walk_succ o hf, advance_atEnd o he, walk_of_finished o rfl]
          exact ⟨rfl, rfl, rfl⟩

theorem walk_zero_still (d : Decoder) :
    (d.walk o 0).1.cursor = d.cursor ∧ (d.walk o 0).1.opcodes = d.opcodes ∧ (d.walk o 0).2 = [] := by
  cases he : d.cursor.atEnd with
  | true => exact walk_still o (.inr he) 0
  | false =>
      rw [walk_zero o he]
      exact ⟨rfl, rfl, rfl⟩

/-- The offset behind the first `k` commands from here, at which the next one begins. -/
def offset (k : Nat) (d : Decoder) : Nat := (d.walk o k).1.cursor.position

/-- A walk of `n` commands tells of the bytes that it passed, in their order, and of every command
that it passed, one cut short apart. -/
structure Accounts (n : Nat) (d : Decoder) : Prop where
  forward : d.cursor.position ≤ d.offset o n
  ascends : Ascends d.cursor.position (d.offset o n) (d.walk o n).2
  commands : ∀ k, d.opcodes + k < (d.walk o n).1.opcodes →
    d.offset o k < d.offset o (k + 1) ∧ d.offset o (k + 1) ≤ d.offset o n ∧
      ((d.walk o n).1.phase = .halted (.truncated (d.offset o k)) ∨
        ∃ e ∈ (d.walk o n).2, d.offset o k ≤ e.position ∧ e.position < d.offset o (k + 1))

theorem accounts_of_still {d : Decoder} {n : Nat} (h : (d.walk o n).1.cursor = d.cursor ∧
    (d.walk o n).1.opcodes = d.opcodes ∧ (d.walk o n).2 = []) : d.Accounts o n := by
  obtain ⟨hcursor, hopcodes, hevents⟩ := h
  refine ⟨?forward, ?ascends, ?commands⟩
  case forward => exact Nat.le_of_eq (congrArg Cursor.position hcursor).symm
  case ascends =>
    rw [hevents]
    exact .nil _ _
  case commands =>
    intro k hk
    rw [hopcodes] at hk
    exact absurd hk (Nat.not_lt.mpr (Nat.le_add_right _ _))

theorem accounts_succ {d : Decoder} {n : Nat} (hf : d.isFinished = false)
    (he : d.cursor.atEnd = false) (h : (d.advance o).1.Accounts o n) : d.Accounts o (n + 1) := by
  obtain ⟨hlt, ascends, told⟩ := advance_tells o he
  have onward : ∀ k, d.offset o (k + 1) = (d.advance o).1.offset o k := by
    intro k
    rw [offset, walk_succ o hf]
    rfl
  have hzero : d.offset o 0 = d.cursor.position := by rw [offset, (walk_zero_still o d).1]
  have hone : (d.advance o).1.offset o 0 = (d.advance o).1.cursor.position := by
    rw [offset, (walk_zero_still o (d.advance o).1).1]
  have hevents : (d.walk o (n + 1)).2 = (d.advance o).2 ++ ((d.advance o).1.walk o n).2 := by
    rw [walk_succ o hf]
  have hlast : (d.walk o (n + 1)).1 = ((d.advance o).1.walk o n).1 := by rw [walk_succ o hf]
  refine ⟨?forward, ?ascends, ?commands⟩
  case forward =>
    rw [onward]
    exact Nat.le_trans (Nat.le_of_lt hlt) h.forward
  case ascends =>
    rw [onward, hevents]
    exact ascends.append h.ascends (Nat.le_of_lt hlt) h.forward
  case commands =>
    intro k hk
    rw [hlast] at hk
    rw [hevents, hlast, onward n, onward k]
    cases k with
    | zero =>
        rw [hzero, hone]
        refine ⟨hlt, h.forward, ?_⟩
        rcases told with cut | spoken
        · have hd : (d.advance o).1.isFinished = true := by simp only [isFinished, cut]
          rw [walk_of_finished o hd]
          exact .inl cut
        · obtain ⟨e, rest, hcons⟩ := List.exists_cons_of_ne_nil spoken
          have he : e ∈ (d.advance o).2 := by
            rw [hcons]
            exact List.mem_cons_self
          exact .inr ⟨e, List.mem_append_left _ he, ascends.inside e he⟩
    | succ k =>
        rw [onward k]
        have hk' : (d.advance o).1.opcodes + k < ((d.advance o).1.walk o n).1.opcodes := by
          rw [advance_opcodes o he]
          omega
        obtain ⟨hforward, hwithin, hcut | ⟨e, hmem, hinside⟩⟩ := h.commands k hk'
        · exact ⟨hforward, hwithin, .inl hcut⟩
        · exact ⟨hforward, hwithin, .inr ⟨e, List.mem_append_right _ hmem, hinside⟩⟩

theorem walk_accounts (n : Nat) (d : Decoder) : d.Accounts o n := by
  induction n generalizing d with
  | zero => exact accounts_of_still o (walk_zero_still o d)
  | succ n ih =>
      cases hf : d.isFinished with
      | true => exact accounts_of_still o (walk_still o (.inl hf) (n + 1))
      | false =>
          cases he : d.cursor.atEnd with
          | true => exact accounts_of_still o (walk_still o (.inr he) (n + 1))
          | false => exact accounts_succ o hf he (ih (d.advance o).1)

variable (capture : Octets)

/-- The bytes of a capture before its first escape. -/
def skipped : Octets := preambleBytes (.start capture)

/-- The offset at which command number `k` of a capture begins. The one before it ends there. -/
def commandOffset (k : Nat) : Nat := (opened o capture).offset o k

theorem opened_position : (opened o capture).cursor.position = (skipped capture).length := by
  have hprefix : skipped capture <+: capture := List.takeWhile_prefix _
  change 0 + (capture.take (skipped capture).length).length = _
  rw [Nat.zero_add, List.length_take, Nat.min_eq_left hprefix.length_le]

theorem opened_covers : (opened o capture).Covers capture.length := by
  have hprefix : skipped capture <+: capture := List.takeWhile_prefix _
  have hle := hprefix.length_le
  unfold Covers
  rw [opened_position]
  change (skipped capture).length + (capture.drop (skipped capture).length).length = _
  rw [List.length_drop]
  omega

theorem position_bounds (d : Decoder) : d.cursor.position ≤ d.position ∧
    d.position ≤ d.cursor.position + d.cursor.rest.length := by
  rcases d with ⟨phase, ⟨p, bytes⟩, opcodes, pen, surface⟩
  cases phase with
  | dispatch =>
      cases bytes with
      | nil => exact ⟨Nat.le_refl _, Nat.le_refl _⟩
      | cons byte bytes => exact ⟨Nat.le_succ p, Nat.add_le_add_left (Nat.succ_pos _) p⟩
  | preamble => exact ⟨Nat.le_refl _, Nat.le_add_right _ _⟩
  | halted halt => exact ⟨Nat.le_refl _, Nat.le_add_right _ _⟩
  | failed fault => exact ⟨Nat.le_refl _, Nat.le_add_right _ _⟩

theorem told_ascends (n : Nat) : Ascends 0 (commandOffset o capture n) (told o capture n) := by
  have preamble : Ascends 0 (opened o capture).cursor.position (preambleEvents (skipped capture)) := by
    rw [opened_position, ← Nat.zero_add (skipped capture).length]
    exact Ascends.bytes (fun _ i => (Nat.zero_add i).symm) (fun _ _ => rfl) (skipped capture) 0
  have walk := walk_accounts o n (opened o capture)
  exact preamble.append walk.ascends (Nat.zero_le _) walk.forward

theorem skipped_told (n : Nat) {i : Nat} {byte : UInt8} (h : (skipped capture)[i]? = some byte) :
    (told o capture n).filter (·.position == i) = [⟨i, .skipped i byte⟩] := by
  have hmem : (⟨i, .skipped i byte⟩ : Event) ∈ told o capture n := by
    refine List.mem_append_left _ (List.mem_map.mpr ⟨(byte, i), ?_, rfl⟩)
    exact List.mk_mem_zipIdx_iff_getElem?.mpr h
  exact Ascends.filter_position (told_ascends o capture n).increasing hmem

end Decoder

open Decoder (skipped commandOffset)

/-- A trace that tells of every byte at most once and in order, of all of the preamble that was passed,
and of every command that was begun, unless the data ended inside it. Its last event, and no other,
reads as a summary does, and names how the decode ended and how large the picture is. -/
structure Decoded.WellTraced (o : Options) (capture : Octets) (told : List Event) (d : Decoded) :
    Prop where
  trace_eq : d.trace = some (told ++ [d.summary])
  placed : d.summary.position = d.consumed
  worded : d.summary.note.message =
    "finished: " ++ d.halt.message ++ ", image " ++ toString d.width ++ "x" ++ toString d.height
  named : ∀ halt width height, (Note.finished halt width height).message = d.summary.note.message →
    halt = d.halt ∧ width = d.width ∧ height = d.height
  unlike : ∀ e ∈ told, ∀ rest, e.note.message ≠ "finished: " ++ rest
  increasing : (told ++ [d.summary]).Pairwise (·.position < ·.position)
  plain : ∀ e ∈ told, e.note.isSummary = false
  consumed : ∀ e ∈ told, e.position < d.consumed
  within : d.consumed ≤ capture.length
  preamble : ∀ i byte, i < d.consumed → (skipped capture)[i]? = some byte →
    told.filter (·.position == i) = [⟨i, .skipped i byte⟩]
  commands : ∀ k < d.opcodes, commandOffset o capture k < commandOffset o capture (k + 1) ∧
    commandOffset o capture (k + 1) ≤ d.consumed ∧
    (d.halt ≠ .truncated (commandOffset o capture k) → ∃ e ∈ told,
      commandOffset o capture k ≤ e.position ∧ e.position < commandOffset o capture (k + 1))

namespace Session

variable (o : Options) (capture : Octets)

/-- What a decode has told after batches of the given budgets. -/
def toldBy : List Nat → List Event
  | [] => []
  | budgets@(_ :: _) => Decoder.told o capture (allowance budgets)

theorem reached_holds (sink : Sink) (budgets : List Nat) :
    (reached o sink capture budgets).journal.Holds sink (toldBy o capture budgets) := by
  cases budgets with
  | nil => exact Journal.start_holds sink
  | cons budget budgets =>
      rw [reached, batches_start o sink capture (List.cons_ne_nil budget budgets), steps_opened]
      exact (opened_holds o sink capture).recordAll _

theorem reached_start_traced :
    (reached o .keep capture []).finish.1.WellTraced o capture [] := by
  refine ⟨rfl, rfl, rfl, fun _ _ _ => Note.finished_inj, ?_, List.pairwise_singleton _ _, ?_, ?_,
    Nat.zero_le _, ?_, ?_⟩
  · exact fun _ h => absurd h List.not_mem_nil
  · exact fun _ h => absurd h List.not_mem_nil
  · exact fun _ h => absurd h List.not_mem_nil
  · exact fun i _ h => absurd h (Nat.not_lt_zero i)
  · exact fun k h => absurd h (Nat.not_lt_zero k)

theorem walk_traced (n : Nat) : ((Decoder.opened o capture).walk o n).1.decoded
    (some (Decoder.told o capture n ++ [((Decoder.opened o capture).walk o n).1.summary]))
      |>.WellTraced o capture (Decoder.told o capture n) := by
  have ascends := Decoder.told_ascends o capture n
  have accounts := Decoder.walk_accounts o n (Decoder.opened o capture)
  have covers : ((Decoder.opened o capture).walk o n).1.Covers capture.length :=
    Decoder.walk_induction o (Decoder.opened_covers o capture)
      (fun _ _ h => Decoder.advance_covers o h) n
  generalize hd : ((Decoder.opened o capture).walk o n).1 = d at accounts covers ⊢
  obtain ⟨least, most⟩ := d.position_bounds
  have hoffset : commandOffset o capture n = d.cursor.position := by
    rw [commandOffset, Decoder.offset, hd]
  have consumed : ∀ e ∈ Decoder.told o capture n, e.position < d.position := by
    intro e he
    have hlt := (ascends.inside e he).2
    rw [hoffset] at hlt
    exact Nat.lt_of_lt_of_le hlt least
  refine ⟨rfl, rfl, rfl, fun _ _ _ => Note.finished_inj, ?unlike, ?increasing, ascends.plain, consumed,
    ?within, ?preamble, ?commands⟩
  case unlike => exact fun e he => (Note.message_apart (ascends.plain e he)).ne_summary
  case increasing =>
    refine List.pairwise_append.mpr ⟨ascends.increasing, List.pairwise_singleton _ _, ?_⟩
    intro e he last hl
    rw [List.mem_singleton.mp hl]
    exact consumed e he
  case within => exact covers ▸ most
  case preamble =>
    intro i byte _ hi
    exact Decoder.skipped_told o capture n hi
  case commands =>
    intro k hk
    have hk' : (Decoder.opened o capture).opcodes + k <
        ((Decoder.opened o capture).walk o n).1.opcodes := by
      rw [hd]
      exact Nat.lt_of_le_of_lt (Nat.le_of_eq (Nat.zero_add k)) hk
    obtain ⟨hlt, hle, told⟩ := accounts.commands k hk'
    refine ⟨hlt, ?_, fun uncut => ?_⟩
    · exact Nat.le_trans hle (Nat.le_trans (Nat.le_of_eq hoffset) least)
    · rcases told with cut | ⟨e, he, inside⟩
      · rw [hd] at cut
        refine absurd ?_ uncut
        change d.ending = _
        rw [Decoder.ending, cut]
        rfl
      · exact ⟨e, List.mem_append_right _ he, inside⟩

theorem reached_traced (budgets : List Nat) :
    (reached o .keep capture budgets).finish.1.WellTraced o capture (toldBy o capture budgets) := by
  cases budgets with
  | nil => exact reached_start_traced o capture
  | cons budget budgets =>
      have present : budget :: budgets ≠ [] := List.cons_ne_nil budget budgets
      rw [finish_eq (reached_holds o capture .keep (budget :: budgets)),
        reached_walk o .keep capture present]
      exact walk_traced o capture (allowance (budget :: budgets))

/-- However a traced decode ends, by itself, by a stop between two turns or after any batches, its
trace is well formed. -/
theorem trace_well_formed (tracing : o.trace = true) :
    (∃ told, (decode o capture).decoded.WellTraced o capture told) ∧
    (∀ cancelBefore, ∃ told,
      (Job.drive o cancelBefore 0 (Job.start o capture)).outcome.decoded.WellTraced o capture told) ∧
    ∀ budgets, ∃ told,
      (reached o .keep capture budgets).finish.1.WellTraced o capture told := by
  have traced : ∀ {d : Decoded}, (∃ budgets,
      d = (reached o (if o.trace then .keep else .discard) capture budgets).finish.1) →
      ∃ told, d.WellTraced o capture told := by
    rintro d ⟨budgets, rfl⟩
    rw [if_pos tracing]
    exact ⟨_, reached_traced o capture budgets⟩
  refine ⟨?whole, fun cancelBefore => ?stopped, fun budgets => ?batches⟩
  case whole => exact traced (exists_reached o _ capture)
  case stopped => exact traced (Job.exists_reached_traced o capture cancelBefore)
  case batches => exact ⟨_, reached_traced o capture budgets⟩

/-- A byte of a label, a reset, a setting and the zero byte. -/
def labelled : Octets := [0x4C, 0x1B, 0x40, 0x1B, 0x69, 0x4D, 0x40, 0x00]

theorem labelled_trace_well_formed :
    Options.traced.trace = true ∧
    (∃ told, (decode .traced labelled).decoded.WellTraced .traced labelled told) ∧
    (decode .traced labelled).decoded.trace = some [⟨0, .skipped 0 0x4C⟩, ⟨2, .reset⟩,
      ⟨5, .setting (Setting.ofByte 0x4D)⟩, ⟨6, .operand 0 0x40⟩, ⟨7, .terminator⟩,
      ⟨8, .finished (.nullTerminator 7) 0 0⟩] ∧
    (decode .traced labelled).decoded.trace.map (List.map Event.text) = some [
      "[     0] skipping until ESC (0, 76, 'L')", "[     2] ESC @ initialize",
      "[     5] ESC i M various mode", "[     6] operand 0: 64", "[     7] NUL terminator",
      "[     8] finished: NUL terminator at 7, image 0x0"] := by
  have tracing : Options.traced.trace = true := rfl
  obtain ⟨whole, _, _⟩ := trace_well_formed .traced labelled tracing
  have hf : ((Decoder.opened .traced labelled).walk .traced 3).1.isFinished = true := rfl
  have events : (decode .traced labelled).decoded.trace = some [⟨0, .skipped 0 0x4C⟩, ⟨2, .reset⟩,
      ⟨5, .setting (Setting.ofByte 0x4D)⟩, ⟨6, .operand 0 0x40⟩, ⟨7, .terminator⟩,
      ⟨8, .finished (.nullTerminator 7) 0 0⟩] := by
    rw [decode_decoded (decode_result .traced labelled hf)]
    rfl
  refine ⟨tracing, whole, events, ?_⟩
  rw [events]
  decide

end Session
end LabelStream
