import LabelStream.Proofs.TracePositions
import Mathlib.Data.Nat.Find

/-! That every decode comes to an end, and how soon. Each command takes a byte of its own, so the bytes
that were read bound the commands, and with them the batches, whatever their size. -/
namespace LabelStream

namespace Decoder

variable (o : Options)

/-- A command that is counted is paid for with a byte that the cursor passed. -/
theorem advance_counted (d : Decoder) : d.cursor.position + (d.advance o).1.opcodes ≤
    (d.advance o).1.cursor.position + d.opcodes := by
  cases he : d.cursor.atEnd with
  | true => rw [advance_atEnd o he]
  | false =>
      have taken := (advance_tells o he).1
      rw [advance_opcodes o he]
      omega

theorem walk_counted (d : Decoder) (n : Nat) : d.cursor.position + (d.walk o n).1.opcodes ≤
    (d.walk o n).1.cursor.position + d.opcodes := by
  refine walk_induction o
    (P := fun later => d.cursor.position + later.opcodes ≤ later.cursor.position + d.opcodes)
    (Nat.le_refl _) ?_ n
  intro later _ counted
  have more := advance_counted o later
  omega

/-- A decode that stopped because the data ended has read all of it. -/
def Exhausted (d : Decoder) : Prop :=
  (d.phase = .halted .endOfStream ∨ ∃ p, d.phase = .halted (.truncated p)) → d.cursor.rest = []

theorem exhausted_of_phase {d : Decoder} {phase : Phase} (h : d.phase = phase)
    (stream : phase ≠ .halted .endOfStream) (command : ∀ p, phase ≠ .halted (.truncated p)) :
    d.Exhausted := by
  rintro (ended | ⟨p, ended⟩)
  · exact absurd (h.symm.trans ended) stream
  · exact absurd (h.symm.trans ended) (command p)

theorem advance_exhausted (d : Decoder) : (d.advance o).1.Exhausted := by
  obtain ⟨hphase, hcursor, _, _⟩ := d.advance_reading o
  cases hr : d.reading o with
  | nothing =>
      intro _
      have found := Grammar.found ⟨d.pen.compression, o.acceptAnyGraphicsMode⟩ d.cursor
      change Grammar.Found _ _ (d.reading o) at found
      rw [hr] at found
      rw [hcursor, hr]
      cases found with
      | nothing bytes => exact bytes
  | cut fragment after =>
      intro _
      rw [(advance_cut o hr).2, Grammar.last_of_cut hr]
      rfl
  | whole command after =>
      rw [hr] at hphase
      exact exhausted_of_phase hphase Phase.noConfusion fun _ => Phase.noConfusion
  | terminator after =>
      rw [hr] at hphase
      exact exhausted_of_phase hphase nofun nofun
  | fault fault after =>
      rw [hr] at hphase
      exact exhausted_of_phase hphase nofun nofun

theorem walk_exhausted (n : Nat) {d : Decoder} (h : d.Exhausted) : (d.walk o n).1.Exhausted :=
  walk_induction o h (fun later _ _ => advance_exhausted o later) n

/-- Where a decode goes on, the byte that it goes on with is already read. -/
theorem position_dispatch {d : Decoder} (h : d.phase = .dispatch) (he : d.cursor.atEnd = false) :
    d.position = d.cursor.position + 1 := by
  simp only [position, h, he, Bool.false_eq_true, if_false]

theorem position_le_succ (d : Decoder) : d.position ≤ d.cursor.position + 1 := by
  unfold position
  split
  · split <;> omega
  · exact Nat.le_succ _

variable (capture : Octets)

/-- How many bytes in front of the first escape the decoder has left behind. -/
def passed (d : Decoder) : Nat :=
  match d.phase with
  | .preamble => 0
  | .dispatch | .halted _ | .failed _ => (skipped capture).length

theorem passed_le (d : Decoder) : d.passed capture ≤ (skipped capture).length := by
  unfold passed
  split
  · exact Nat.zero_le _
  all_goals exact Nat.le_refl _

/-- The skipped bytes and the commands are no more than the bytes read, and those are in the capture. -/
structure Advancing (d : Decoder) : Prop where
  counted : d.passed capture + d.opcodes ≤ d.position
  within : d.position ≤ capture.length
  ended : (d.phase = .halted .endOfStream ∨ ∃ p, d.phase = .halted (.truncated p)) →
    d.position = capture.length

theorem start_advancing : (start o capture).Advancing capture :=
  ⟨Nat.le_refl 0, Nat.zero_le _, nofun⟩

theorem walk_covers (n : Nat) : ((opened o capture).walk o n).1.Covers capture.length :=
  walk_induction o (opened_covers o capture) (fun _ _ h => advance_covers o h) n

theorem walk_advancing (n : Nat) : ((opened o capture).walk o n).1.Advancing capture := by
  have counted := (opened o capture).walk_counted o n
  have covers := walk_covers o capture n
  have exhausted : ((opened o capture).walk o n).1.Exhausted := walk_exhausted o n nofun
  rw [opened_position] at counted
  generalize ((opened o capture).walk o n).1 = d at counted covers exhausted
  obtain ⟨least, most⟩ := d.position_bounds
  have passed := d.passed_le capture
  have none : (opened o capture).opcodes = 0 := rfl
  refine ⟨by omega, covers ▸ most, fun ended => ?_⟩
  have whole : d.cursor.position = capture.length := by
    rw [← covers, exhausted ended]
    rfl
  exact Nat.le_antisymm (covers ▸ most) (whole ▸ least)

end Decoder

namespace Session

variable (o : Options)

theorem phase_of_unfinished {s : Session} (begun : s.decoder.phase ≠ .preamble)
    (h : s.decoder.isFinished = false) : s.decoder.phase = .dispatch := by
  rcases s with ⟨⟨phase, cursor, opcodes, pen, surface⟩, journal⟩
  cases phase with
  | preamble => exact absurd rfl begun
  | dispatch => rfl
  | halted halt => cases h
  | failed fault => cases h

theorem progress_eq_halted {s : Session} {halt : Halt} :
    s.progress = .halted halt ↔ s.decoder.phase = .halted halt := by
  rcases s with ⟨⟨phase, cursor, opcodes, pen, surface⟩, journal⟩
  cases phase <;> simp [progress]

/-- A batch that leaves more to do has read a byte for each of its commands. -/
theorem step_position {budget : Nat} {s : Session} (begun : s.decoder.phase ≠ .preamble)
    (h : (s.step o budget).decoder.isFinished = false) :
    s.decoder.position + max budget 1 ≤ (s.step o budget).decoder.position := by
  rw [step, enter_of_ne_preamble begun] at h ⊢
  have phase := phase_of_unfinished (steps_phase_ne_preamble o begun _) h
  obtain ⟨more, opcodes⟩ := steps_unfinished o h
  have walked : (steps o (max budget 1) s).decoder = (s.decoder.walk o (max budget 1)).1 :=
    congrArg Session.decoder (steps_walk o (max budget 1) s.decoder s.journal)
  have counted := s.decoder.walk_counted o (max budget 1)
  rw [← walked, opcodes] at counted
  have before := s.decoder.position_le_succ
  rw [Decoder.position_dispatch phase more]
  omega

variable (sink : Sink) (capture : Octets)

theorem reached_advancing (budgets : List Nat) :
    (reached o sink capture budgets).decoder.Advancing capture := by
  cases budgets with
  | nil => exact Decoder.start_advancing o capture
  | cons budget budgets =>
      rw [reached_walk o sink capture (List.cons_ne_nil budget budgets)]
      exact Decoder.walk_advancing o capture _

/-- A decode that goes on has a byte left that no command was begun with. -/
theorem steps_unfinished_lt {n : Nat}
    (h : (steps o n (opened o sink capture)).decoder.isFinished = false) : n < capture.length := by
  obtain ⟨more, handled⟩ := steps_unfinished o h
  have walked : (steps o n (opened o sink capture)).decoder =
      ((Decoder.opened o capture).walk o n).1 := congrArg Session.decoder (steps_opened o sink capture n)
  have none : (Decoder.opened o capture).opcodes = 0 := rfl
  have counted := (Decoder.opened o capture).walk_counted o n
  have covers := Decoder.walk_covers o capture n
  rw [opened_opcodes, Nat.zero_add] at handled
  rw [← walked, handled, none] at counted
  rw [← walked] at covers
  have unread := List.length_pos_of_ne_nil (List.isEmpty_eq_false_iff.mp more)
  unfold Decoder.Covers at covers
  omega

/-- As many batches as the capture has bytes are enough, whatever their size. -/
theorem reached_finished {count : Nat} (present : 0 < count) (h : capture.length ≤ count)
    (budget : Nat) :
    (reached o sink capture (List.replicate count budget)).decoder.isFinished = true := by
  have some : List.replicate count budget ≠ [] :=
    List.ne_nil_of_length_pos (by rwa [List.length_replicate])
  by_contra unfinished
  have going := eq_false_of_ne_true unfinished
  rw [reached, batches_start o sink capture some] at going
  have few := steps_unfinished_lt o sink capture going
  rw [allowance_replicate] at few
  have many : count ≤ count * max budget 1 := Nat.le_mul_of_pos_right _ (Nat.le_max_right budget 1)
  omega

/-- A decode is over after at most one batch for each byte, and a batch that leaves more to do takes as
many bytes as it was to handle commands. Nothing is counted that was not read, and only the end of the
data is taken for it. -/
theorem decode_makes_progress :
    (∃ calls, 1 ≤ calls ∧ calls ≤ max 1 capture.length ∧
      (∀ k < calls, (reached o sink capture (List.replicate k o.batchSize)).progress = .more) ∧
      (reached o sink capture (List.replicate calls o.batchSize)).progress ≠ .more ∧
      (start o sink capture).run o = reached o sink capture (List.replicate calls o.batchSize)) ∧
    (∀ (s : Session) budget, s.decoder.phase ≠ .preamble → (s.step o budget).progress = .more →
      s.decoder.position + max budget 1 ≤ (s.step o budget).decoder.position) ∧
    ∀ budgets, let s := reached o sink capture budgets
      s.decoder.passed capture + s.decoder.opcodes ≤ s.decoder.position ∧
      s.decoder.position ≤ capture.length ∧
      (s.progress = .halted .endOfStream ∨ (∃ p, s.progress = .halted (.truncated p)) →
        s.decoder.position = capture.length) := by
  refine ⟨?ends, ?advances, ?counts⟩
  case ends =>
    let finished (count : Nat) : Prop :=
      (reached o sink capture (List.replicate count o.batchSize)).decoder.isFinished = true
    have enough : finished (max 1 capture.length) :=
      reached_finished o sink capture (Nat.le_max_left _ _) (Nat.le_max_right _ _) o.batchSize
    have exists_enough : ∃ count, finished count := ⟨_, enough⟩
    have least := Nat.find_spec exists_enough
    refine ⟨Nat.find exists_enough, ?_, Nat.find_min' exists_enough enough, ?_, ?_, ?_⟩
    · rw [Nat.one_le_iff_ne_zero]
      intro zero
      rw [zero] at least
      cases least
    · intro k fewer
      exact progress_eq_more.mpr (eq_false_of_ne_true (Nat.find_min exists_enough fewer))
    · exact progress_ne_more.mpr least
    · exact (batches_eq_run o sink capture least).symm
  case advances =>
    intro s budget begun more
    exact step_position o begun (progress_eq_more.mp more)
  case counts =>
    intro budgets s
    obtain ⟨counted, within, ended⟩ := reached_advancing o sink capture budgets
    refine ⟨counted, within, ?_⟩
    rintro (stream | ⟨p, command⟩)
    · exact ended (.inl (progress_eq_halted.mp stream))
    · exact ended (.inr ⟨p, progress_eq_halted.mp command⟩)

end Session
end LabelStream
