import LabelStream.Proofs.Grammar
import LabelStream.Session

/-! How a decode is cut into batches. A batch is so many commands and a look at the end of the data,
so two batches in a row are one batch of their total size, and only that size can be seen. -/
namespace LabelStream

namespace Grammar

theorem read_ne_nothing (g : Grammar) {c : Cursor} (h : c.rest ≠ []) : g.read c ≠ .nothing := by
  intro hn
  have hfound := g.found c
  rw [hn] at hfound
  cases hfound with
  | nothing bytes => exact h bytes

end Grammar

namespace Decoder

theorem reading_atEnd (o : Options) {d : Decoder} (h : d.cursor.atEnd = true) :
    d.reading o = .nothing := by
  have hc : d.cursor = ⟨d.cursor.position, []⟩ := by rw [← List.isEmpty_iff.mp h]
  rw [reading, hc]
  rfl

theorem advance_atEnd (o : Options) {d : Decoder} (h : d.cursor.atEnd = true) :
    d.advance o = ({ d with phase := .halted .endOfStream }, []) := by
  simp only [advance, reading_atEnd o h]

theorem advance_opcodes (o : Options) {d : Decoder} (h : d.cursor.atEnd = false) :
    (d.advance o).1.opcodes = d.opcodes + 1 := by
  have hne : d.cursor.rest ≠ [] := fun he => by simp [Cursor.atEnd, he] at h
  unfold advance
  split
  next hn => exact absurd hn (Grammar.read_ne_nothing _ hne)
  next => rfl
  next fragment after hr => cases fragment <;> rfl
  next => rfl
  next => rfl

theorem advance_phase_ne_preamble (o : Options) (d : Decoder) : (d.advance o).1.phase ≠ .preamble := by
  unfold advance
  split
  next => exact Phase.noConfusion
  next => exact Phase.noConfusion
  next fragment after hr => cases fragment <;> exact Phase.noConfusion
  next => exact Phase.noConfusion
  next => exact Phase.noConfusion

end Decoder

namespace Session

theorem enter_of_ne_preamble {s : Session} (h : s.decoder.phase ≠ .preamble) : s.enter = s := by
  unfold enter
  split
  next hp => exact absurd hp h
  all_goals rfl

theorem enter_phase_ne_preamble (s : Session) : s.enter.decoder.phase ≠ .preamble := by
  unfold enter
  split
  next => exact Phase.noConfusion
  all_goals
    next hp =>
      rw [hp]
      exact Phase.noConfusion

variable (o : Options)

theorem steps_of_finished {s : Session} (h : s.decoder.isFinished = true) (n : Nat) :
    steps o n s = s := by
  cases n with
  | zero => simp only [steps, h, Bool.not_true, Bool.false_and, Bool.false_eq_true, if_false]
  | succ n => simp only [steps, h, if_true]

theorem steps_succ {s : Session} (h : s.decoder.isFinished = false) (n : Nat) :
    steps o (n + 1) s = steps o n (s.advance o) := by
  simp only [steps, h, Bool.false_eq_true, if_false]

theorem advance_finished_of_atEnd {s : Session} (h : s.decoder.cursor.atEnd = true) :
    (s.advance o).decoder.isFinished = true := by
  rw [advance_decoder, Decoder.advance_atEnd o h]
  rfl

theorem steps_of_atEnd {s : Session} (hf : s.decoder.isFinished = false)
    (he : s.decoder.cursor.atEnd = true) (n : Nat) : steps o n s = s.advance o := by
  cases n with
  | zero => simp only [steps, hf, he, Bool.not_false, Bool.and_self, if_true]
  | succ n => rw [steps_succ o hf, steps_of_finished o (advance_finished_of_atEnd o he)]

theorem steps_zero {s : Session} (he : s.decoder.cursor.atEnd = false) : steps o 0 s = s := by
  simp only [steps, he, Bool.and_false, Bool.false_eq_true, if_false]

/-- The look at the end that closes a batch is the one that opens the next. -/
theorem steps_steps (m n : Nat) (s : Session) : steps o m (steps o n s) = steps o (n + m) s := by
  induction n generalizing s with
  | zero =>
      -- At the end the empty batch already halts, and what follows finds it halted.
      rw [Nat.zero_add]
      cases he : s.decoder.cursor.atEnd with
      | false => rw [steps_zero o he]
      | true =>
          cases hf : s.decoder.isFinished with
          | true => rw [steps_of_finished o hf 0]
          | false =>
              rw [steps_of_atEnd o hf he, steps_of_atEnd o hf he]
              exact steps_of_finished o (advance_finished_of_atEnd o he) m
  | succ n ih =>
      cases hf : s.decoder.isFinished with
      | true => simp only [steps_of_finished o hf]
      | false => rw [steps_succ o hf, ih, Nat.succ_add, steps_succ o hf]

theorem steps_phase_ne_preamble {s : Session} (h : s.decoder.phase ≠ .preamble) (n : Nat) :
    (steps o n s).decoder.phase ≠ .preamble := by
  induction n generalizing s with
  | zero =>
      unfold steps
      split
      · exact s.decoder.advance_phase_ne_preamble o
      · exact h
  | succ n ih =>
      unfold steps
      split
      · exact h
      · exact ih (s.decoder.advance_phase_ne_preamble o)

theorem step_steps (budget n : Nat) (s : Session) :
    (steps o n s.enter).step o budget = steps o (n + max budget 1) s.enter := by
  have hp := steps_phase_ne_preamble o s.enter_phase_ne_preamble n
  rw [step, enter_of_ne_preamble hp, steps_steps]

def batches (budgets : List Nat) (s : Session) : Session :=
  budgets.foldl (fun s budget => s.step o budget) s

/-- The commands that budgets allow together. A budget of none counts as one. -/
def allowance : List Nat → Nat
  | [] => 0
  | budget :: budgets => max budget 1 + allowance budgets

theorem batches_steps (budgets : List Nat) (n : Nat) (s : Session) :
    batches o budgets (steps o n s.enter) = steps o (n + allowance budgets) s.enter := by
  induction budgets generalizing n with
  | nil => rfl
  | cons budget budgets ih =>
      have hs : batches o (budget :: budgets) (steps o n s.enter) =
          batches o budgets ((steps o n s.enter).step o budget) := rfl
      rw [hs, step_steps, ih, Nat.add_assoc]
      rfl

/-- However they are cut, batches come to as many commands as they allow together. -/
theorem batches_eq_steps {budgets : List Nat} (h : budgets ≠ []) (s : Session) :
    batches o budgets s = steps o (allowance budgets) s.enter := by
  cases budgets with
  | nil => exact absurd rfl h
  | cons budget budgets => exact batches_steps o budgets (max budget 1) s

theorem advance_opcodes_le (s : Session) :
    s.decoder.opcodes ≤ (s.advance o).decoder.opcodes ∧
      (s.advance o).decoder.opcodes ≤ s.decoder.opcodes + 1 := by
  rw [advance_decoder]
  cases he : s.decoder.cursor.atEnd with
  | true =>
      rw [Decoder.advance_atEnd o he]
      exact ⟨Nat.le_refl _, Nat.le_succ _⟩
  | false =>
      rw [Decoder.advance_opcodes o he]
      exact ⟨Nat.le_succ _, Nat.le_refl _⟩

theorem steps_opcodes_le (n : Nat) (s : Session) :
    s.decoder.opcodes ≤ (steps o n s).decoder.opcodes ∧
      (steps o n s).decoder.opcodes ≤ s.decoder.opcodes + n := by
  induction n generalizing s with
  | zero =>
      unfold steps
      split
      next h =>
        simp only [Bool.and_eq_true, Bool.not_eq_true'] at h
        rw [advance_decoder, Decoder.advance_atEnd o h.2]
        exact ⟨Nat.le_refl _, Nat.le_refl _⟩
      next => exact ⟨Nat.le_refl _, Nat.le_refl _⟩
  | succ n ih =>
      unfold steps
      split
      · exact ⟨Nat.le_refl _, Nat.le_add_right _ _⟩
      · have ha := advance_opcodes_le o s
        have hs := ih (s.advance o)
        omega

/-- A batch that leaves more to do stands before a command, and handled as many as it could. -/
theorem steps_unfinished {n : Nat} {s : Session} (h : (steps o n s).decoder.isFinished = false) :
    (steps o n s).decoder.cursor.atEnd = false ∧
      (steps o n s).decoder.opcodes = s.decoder.opcodes + n := by
  induction n generalizing s with
  | zero =>
      have hf : s.decoder.isFinished = false := by
        cases hf : s.decoder.isFinished with
        | false => rfl
        | true => rw [steps_of_finished o hf, hf] at h; cases h
      cases he : s.decoder.cursor.atEnd with
      | true => rw [steps_of_atEnd o hf he, advance_finished_of_atEnd o he] at h; cases h
      | false =>
          rw [steps_zero o he]
          exact ⟨he, rfl⟩
  | succ n ih =>
      cases hf : s.decoder.isFinished with
      | true => rw [steps_of_finished o hf, hf] at h; cases h
      | false =>
          rw [steps_succ o hf] at h ⊢
          cases he : s.decoder.cursor.atEnd with
          | true =>
              have hd := advance_finished_of_atEnd o he
              rw [steps_of_finished o hd, hd] at h
              cases h
          | false =>
              obtain ⟨hat, hop⟩ := ih h
              rw [advance_decoder, Decoder.advance_opcodes o he] at hop
              exact ⟨hat, by omega⟩

theorem steps_of_le {m n : Nat} {s : Session} (hf : (steps o m s).decoder.isFinished = true)
    (h : m ≤ n) : steps o n s = steps o m s := by
  obtain ⟨k, rfl⟩ := Nat.exists_eq_add_of_le h
  rw [← steps_steps, steps_of_finished o hf]

theorem steps_eq_of_finished {m n : Nat} {s : Session}
    (hm : (steps o m s).decoder.isFinished = true) (hn : (steps o n s).decoder.isFinished = true) :
    steps o m s = steps o n s := by
  rcases Nat.le_total m n with h | h
  · exact (steps_of_le o hm h).symm
  · exact steps_of_le o hn h

/-- The end is reached with the last command, not later. -/
theorem steps_finished_iff {m : Nat} {s : Session} (hm : (steps o m s).decoder.isFinished = true)
    (n : Nat) : (steps o n s).decoder.isFinished = true ↔
      (steps o m s).decoder.opcodes ≤ s.decoder.opcodes + n := by
  constructor
  · intro hn
    rw [steps_eq_of_finished o hm hn]
    exact (steps_opcodes_le o n s).2
  · intro hle
    by_contra hn
    have hn : (steps o n s).decoder.isFinished = false := eq_false_of_ne_true hn
    have hlt : n < m := by
      by_contra hge
      rw [steps_of_le o hm (Nat.le_of_not_lt hge), hm] at hn
      cases hn
    -- An unfinished batch has a command before it, which counts once more before the end.
    obtain ⟨hat, hop⟩ := steps_unfinished o hn
    obtain ⟨k, rfl⟩ := Nat.exists_eq_add_of_lt hlt
    rw [Nat.add_assoc, ← steps_steps, steps_succ o hn] at hle
    have hmono := (steps_opcodes_le o k ((steps o n s).advance o)).1
    rw [advance_decoder, Decoder.advance_opcodes o hat] at hmono
    omega

theorem run_eq_steps (s : Session) :
    ∃ n, run o s = steps o n s.enter ∧ (steps o n s.enter).decoder.isFinished = true := by
  fun_induction run o s with
  | case1 s h =>
      have hs : steps o 0 s.enter = s := by rw [enter_of_finished h, steps_of_finished o h]
      exact ⟨0, hs.symm, by rw [hs, h]⟩
  | case2 s h ih =>
      obtain ⟨n, hn, hf⟩ := ih
      have he : (s.step o o.batchSize).enter = s.step o o.batchSize :=
        enter_of_ne_preamble (steps_phase_ne_preamble o s.enter_phase_ne_preamble _)
      rw [he, step, steps_steps] at hn hf
      exact ⟨_, hn, hf⟩

theorem steps_batchSize (size n : Nat) (s : Session) :
    steps { o with batchSize := size } n s = steps o n s := by
  induction n generalizing s with
  | zero => rfl
  | succ n ih =>
      unfold steps
      rw [ih]
      rfl

theorem finish_log (d : Decoder) (j : Journal) (notice : Notice) :
    (finish ⟨d, j.log notice⟩).1 = (finish ⟨d, j⟩).1 := by
  rcases j with ⟨sink, events, notices⟩
  cases sink <;> rfl

theorem conclude_decoded (s : Session) : (s.conclude o).decoded = s.finish.1 := by
  unfold conclude
  split
  · exact finish_log s.decoder s.journal _
  all_goals rfl

theorem finish_unfinished {s : Session} (h : s.decoder.isFinished = false) :
    s.finish.1.halt = .cancelled ∧ s.finish.1.opcodes = s.decoder.opcodes := by
  rcases s with ⟨⟨phase, cursor, opcodes, pen, surface⟩, journal⟩
  cases phase with
  | preamble => exact ⟨rfl, rfl⟩
  | dispatch => exact ⟨rfl, rfl⟩
  | halted halt => cases h
  | failed fault => cases h

theorem progress_eq_more {s : Session} : s.progress = .more ↔ s.decoder.isFinished = false := by
  rcases s with ⟨⟨phase, cursor, opcodes, pen, surface⟩, journal⟩
  cases phase <;> simp [progress, Decoder.isFinished]

theorem progress_ne_more {s : Session} : s.progress ≠ .more ↔ s.decoder.isFinished = true := by
  rw [Ne, progress_eq_more, Bool.not_eq_false]

theorem run_of_finished {s : Session} (h : s.decoder.isFinished = true) : run o s = s := by
  rw [run, dif_pos h]

theorem allowance_pos {budgets : List Nat} (h : budgets ≠ []) : 0 < allowance budgets := by
  cases budgets with
  | nil => exact absurd rfl h
  | cons budget budgets =>
      have hb : 0 < max budget 1 := Nat.le_max_right budget 1
      exact Nat.add_pos_left hb _

theorem allowance_replicate (count budget : Nat) :
    allowance (List.replicate count budget) = count * max budget 1 := by
  induction count with
  | zero => exact (Nat.zero_mul _).symm
  | succ count ih => rw [List.replicate_succ, allowance, ih, Nat.succ_mul, Nat.add_comm]

variable (sink : Sink) (capture : Octets)

/-- Where a decode of the capture stands once its preamble is passed. -/
def opened : Session := (start o sink capture).enter

theorem opened_opcodes : (opened o sink capture).decoder.opcodes = 0 := rfl

theorem batches_start {budgets : List Nat} (h : budgets ≠ []) :
    batches o budgets (start o sink capture) = steps o (allowance budgets) (opened o sink capture) :=
  batches_eq_steps o h _

theorem batches_of_allowance {budgets others : List Nat} (h : allowance budgets = allowance others) :
    batches o budgets (start o sink capture) = batches o others (start o sink capture) := by
  by_cases hb : budgets = []
  · have ho : others = [] := by
      by_contra ho
      have := allowance_pos ho
      rw [← h, hb] at this
      exact Nat.lt_irrefl 0 this
    rw [hb, ho]
  · have ho : others ≠ [] := by
      intro ho
      have := allowance_pos hb
      rw [h, ho] at this
      exact Nat.lt_irrefl 0 this
    rw [batches_start o sink capture hb, batches_start o sink capture ho, h]

theorem batches_opcodes {budgets : List Nat}
    (h : (batches o budgets (start o sink capture)).decoder.isFinished = false) :
    (batches o budgets (start o sink capture)).decoder.opcodes = allowance budgets := by
  cases budgets with
  | nil => rfl
  | cons budget budgets =>
      rw [batches_start o sink capture (List.cons_ne_nil budget budgets)] at h ⊢
      rw [(steps_unfinished o h).2, opened_opcodes, Nat.zero_add]

/-- From any batch on, the rest of the decode is a walk from where it was opened. -/
theorem run_batches_steps (budgets : List Nat) (size : Nat) :
    ∃ n, (batches o budgets (start o sink capture)).run { o with batchSize := size } =
        steps o n (opened o sink capture) ∧
      (steps o n (opened o sink capture)).decoder.isFinished = true := by
  obtain ⟨n, hr, hf⟩ :=
    run_eq_steps { o with batchSize := size } (batches o budgets (start o sink capture))
  rw [steps_batchSize] at hr hf
  rw [hr]
  cases budgets with
  | nil => exact ⟨n, rfl, hf⟩
  | cons budget budgets =>
      rw [batches_start o sink capture (List.cons_ne_nil budget budgets)] at hf ⊢
      have hp := steps_phase_ne_preamble o (enter_phase_ne_preamble (start o sink capture))
        (allowance (budget :: budgets))
      rw [opened, enter_of_ne_preamble hp, steps_steps] at hf ⊢
      exact ⟨_, rfl, hf⟩

/-- However far it went in batches, and in batches of whatever size it goes on, a decode ends in the
same state. -/
theorem run_batches (budgets : List Nat) (size : Nat) :
    (batches o budgets (start o sink capture)).run { o with batchSize := size } =
      (start o sink capture).run o := by
  obtain ⟨n, hr, hf⟩ := run_batches_steps o sink capture budgets size
  obtain ⟨m, hr', hf'⟩ := run_batches_steps o sink capture [] o.batchSize
  change (start o sink capture).run o = _ at hr'
  rw [hr, hr']
  exact steps_eq_of_finished o hf hf'

theorem batches_eq_run {budgets : List Nat}
    (h : (batches o budgets (start o sink capture)).decoder.isFinished = true) :
    batches o budgets (start o sink capture) = (start o sink capture).run o := by
  rw [← run_batches o sink capture budgets o.batchSize, run_of_finished _ h]

theorem decodeWithSink_batchSize (size : Nat) :
    decodeWithSink { o with batchSize := size } sink capture =
      ((start o sink capture).run o).conclude o := by
  rw [← run_batches o sink capture [] size]
  rfl

/-- A decode is concluded from wherever it is finished. -/
theorem decodeWithSink_of_steps {capture : Octets} {n : Nat}
    (h : (steps o n (opened o sink capture)).decoder.isFinished = true) :
    decodeWithSink o sink capture = (steps o n (opened o sink capture)).conclude o := by
  obtain ⟨m, hr, hm⟩ := run_batches_steps o sink capture [] o.batchSize
  change (start o sink capture).run o = _ at hr
  rw [decodeWithSink, hr, steps_eq_of_finished o hm h]

theorem exists_batches_finished (budget : Nat) :
    ∃ count, (batches o (List.replicate count budget) (start o sink capture)).decoder.isFinished =
      true := by
  obtain ⟨n, _, hf⟩ := run_batches_steps o sink capture [] o.batchSize
  have hle : n ≤ allowance (List.replicate (n + 1) budget) := by
    rw [allowance_replicate]
    calc n ≤ n + 1 := Nat.le_succ n
      _ ≤ (n + 1) * max budget 1 := Nat.le_mul_of_pos_right _ (Nat.le_max_right budget 1)
  refine ⟨n + 1, ?_⟩
  rw [List.replicate_succ] at hle ⊢
  rw [batches_start o sink capture (List.cons_ne_nil _ _), steps_of_le o hf hle, hf]

/-- Where batches of the given budgets take the decode of the capture. -/
def reached (budgets : List Nat) : Session := batches o budgets (start o sink capture)

theorem decodeWithSink_reached {budgets : List Nat}
    (h : (reached o sink capture budgets).decoder.isFinished = true) :
    (decodeWithSink o sink capture).decoded = (reached o sink capture budgets).finish.1 := by
  rw [reached, batches_eq_run o sink capture h, decodeWithSink, conclude_decoded]

/-- A decode ends where some batches reach. -/
theorem exists_reached : ∃ budgets,
    (decodeWithSink o sink capture).decoded = (reached o sink capture budgets).finish.1 := by
  obtain ⟨count, hf⟩ := exists_batches_finished o sink capture 1
  exact ⟨List.replicate count 1, decodeWithSink_reached o sink capture hf⟩

/-- Only the sum of the budgets shows while a decode goes on, and not even that once it has ended. -/
theorem batching_invisible :
    (∀ budgets, (reached o sink capture budgets).progress = .more →
      (reached o sink capture budgets).decoder.opcodes = allowance budgets) ∧
    (∀ budgets others, allowance budgets = allowance others →
      reached o sink capture budgets = reached o sink capture others) ∧
    (∀ budget, ∃ count,
      (reached o sink capture (List.replicate count budget)).progress ≠ .more) ∧
    (∀ budgets others, (reached o sink capture budgets).progress ≠ .more →
      (reached o sink capture others).progress ≠ .more →
      reached o sink capture budgets = reached o sink capture others) ∧
    (∀ budgets budget, (reached o sink capture budgets).progress ≠ .more →
      (reached o sink capture budgets).step o budget = reached o sink capture budgets) ∧
    ∀ budgets size,
      ((reached o sink capture budgets).run { o with batchSize := size }).conclude o =
        decodeWithSink { o with batchSize := size } sink capture ∧
      ((reached o sink capture budgets).progress ≠ .more →
        (reached o sink capture budgets).conclude o =
          decodeWithSink { o with batchSize := size } sink capture ∧
        (reached o sink capture budgets).finish.1 =
          (decodeWithSink { o with batchSize := size } sink capture).decoded ∧
        (sink = (if o.trace then .keep else .discard) →
          (reached o sink capture budgets).conclude o =
            decode { o with batchSize := size } capture)) := by
  have ended : ∀ budgets, (reached o sink capture budgets).progress ≠ .more →
      reached o sink capture budgets = (start o sink capture).run o := by
    intro budgets h
    exact batches_eq_run o sink capture (progress_ne_more.mp h)
  refine ⟨?count, ?split, ?ends, ?same, ?stays, ?whole⟩
  case count =>
    intro budgets h
    exact batches_opcodes o sink capture (progress_eq_more.mp h)
  case split =>
    intro budgets others hs
    exact batches_of_allowance o sink capture hs
  case ends =>
    intro budget
    obtain ⟨count, hc⟩ := exists_batches_finished o sink capture budget
    exact ⟨count, progress_ne_more.mpr hc⟩
  case same =>
    intro budgets others hb ho
    rw [ended budgets hb, ended others ho]
  case stays =>
    intro budgets budget h
    exact step_of_finished o budget _ (progress_ne_more.mp h)
  case whole =>
    intro budgets size
    refine ⟨?_, fun h => ⟨?_, ?_, ?_⟩⟩
    · rw [reached, run_batches, decodeWithSink_batchSize]
    · rw [ended budgets h, decodeWithSink_batchSize]
    · rw [ended budgets h, decodeWithSink_batchSize, conclude_decoded]
    · intro hs
      rw [ended budgets h, decode, ← hs, decodeWithSink_batchSize]

end Session

theorem decode_reached (o : Options) (capture : Octets) : ∃ sink budgets,
    (decode o capture).decoded = (Session.reached o sink capture budgets).finish.1 :=
  ⟨_, Session.exists_reached o _ capture⟩

end LabelStream
