import LabelStream.Job
import LabelStream.Proofs.Batching

/-! A decode that is given turns. Each turn is a batch, so the turns that it needs follow from its
commands, and a stop between two turns leaves exactly the batches before it. -/
namespace LabelStream.Job

open Session (batches steps opened)

theorem drive_ready {o : Options} {cancelBefore : Option Nat} {polls : Nat} {job : Job}
    {outcome : Outcome} (h : (job.heed cancelBefore polls).poll o = .ready outcome) :
    drive o cancelBefore polls job =
      ⟨outcome, polls + 1, (job.heed cancelBefore polls).cancelled⟩ := by
  rw [drive]
  split
  next hr => rw [h] at hr; cases hr; rfl
  next hr => rw [h] at hr; cases hr

theorem drive_pending {o : Options} {cancelBefore : Option Nat} {polls : Nat} {job next : Job}
    (h : (job.heed cancelBefore polls).poll o = .pending next) :
    drive o cancelBefore polls job = drive o cancelBefore (polls + 1) next := by
  rw [drive]
  split
  next hr => rw [h] at hr; cases hr
  next hr => rw [h] at hr; cases hr; rfl

variable (o : Options) (capture : Octets)

/-- What a decoder has done after so many batches of the size that the options ask for. -/
def stepped (count : Nat) : Session :=
  batches o (List.replicate count (max o.batchSize 1)) (start o capture).session

def turns : Nat :=
  max 1 (((decode o capture).decoded.opcodes + max o.batchSize 1 - 1) / max o.batchSize 1)

theorem turns_le_iff (count : Nat) :
    turns o capture ≤ count + 1 ↔
      (decode o capture).decoded.opcodes ≤ (count + 1) * max o.batchSize 1 := by
  have hpos : 0 < max o.batchSize 1 := Nat.le_max_right _ _
  rw [turns, Nat.max_le, Nat.div_le_iff_le_mul_add_pred hpos, Nat.mul_comm]
  omega

theorem stepped_succ (count : Nat) :
    stepped o capture (count + 1) = (stepped o capture count).step o o.batchSize := by
  simp only [stepped, batches, List.replicate_succ', List.foldl_append, List.foldl_cons,
    List.foldl_nil, Session.step, Nat.max_assoc, Nat.max_self]

/-- The turn that handles the last command is the last one. -/
theorem stepped_finished_iff (count : Nat) :
    (stepped o capture (count + 1)).decoder.isFinished = true ↔ turns o capture ≤ count + 1 := by
  let sink : Sink := if o.trace then .keep else .discard
  obtain ⟨n, hr, hf⟩ := Session.run_batches_steps o sink capture [] o.batchSize
  have hd : (decode o capture).decoded.opcodes =
      (steps o n (opened o sink capture)).decoder.opcodes := by
    rw [← hr]
    exact congrArg Decoded.opcodes (Session.conclude_decoded o _)
  have hs : stepped o capture (count + 1) =
      steps o ((count + 1) * max o.batchSize 1) (opened o sink capture) := by
    have hb := Session.batches_start o sink capture
      (List.cons_ne_nil (max o.batchSize 1) (List.replicate count (max o.batchSize 1)))
    rw [← List.replicate_succ, Session.allowance_replicate, Nat.max_assoc, Nat.max_self] at hb
    exact hb
  rw [hs, turns_le_iff, hd, Session.steps_finished_iff o hf, Session.opened_opcodes, Nat.zero_add]

theorem stepped_unfinished {count : Nat} (h : count < turns o capture) :
    (stepped o capture count).decoder.isFinished = false := by
  cases count with
  | zero => rfl
  | succ count =>
      rw [← Bool.not_eq_true, stepped_finished_iff]
      exact Nat.not_le_of_lt h

theorem poll_ready {count : Nat} (h : turns o capture ≤ count + 1) :
    poll o ⟨stepped o capture count, false⟩ = .ready (decode o capture) := by
  have hf := (stepped_finished_iff o capture count).mpr h
  have hd : (stepped o capture (count + 1)).conclude o = decode o capture :=
    congrArg (·.conclude o) (Session.batches_eq_run o _ capture hf)
  rw [poll, if_neg Bool.false_ne_true]
  simp only [← stepped_succ, hf, if_true, hd]

theorem poll_pending {count : Nat} (h : count + 1 < turns o capture) :
    poll o ⟨stepped o capture count, false⟩ = .pending ⟨stepped o capture (count + 1), false⟩ := by
  rw [poll, if_neg Bool.false_ne_true]
  simp only [← stepped_succ, stepped_unfinished o capture h, Bool.false_eq_true, if_false]

theorem poll_cancelled (s : Session) : ∃ outcome,
    poll o ⟨s, true⟩ = .ready outcome ∧ outcome.result = .ok s.finish.1 := by
  refine ⟨_, rfl, ?_⟩
  exact congrArg Except.ok (Session.finish_log s.decoder s.journal _)

theorem heed_of_ne {cancelBefore : Option Nat} {polls : Nat} (h : cancelBefore ≠ some polls)
    (job : Job) : job.heed cancelBefore polls = job := if_neg h

theorem drive_of_pending {cancelBefore : Option Nat} {count : Nat} (h : cancelBefore ≠ some count)
    (hc : count + 1 < turns o capture) :
    drive o cancelBefore count ⟨stepped o capture count, false⟩ =
      drive o cancelBefore (count + 1) ⟨stepped o capture (count + 1), false⟩ := by
  refine drive_pending ?_
  rw [heed_of_ne h]
  exact poll_pending o capture hc

/-- A stop that would come after the last turn is no stop. -/
theorem drive_stepped {cancelBefore : Option Nat} {count : Nat}
    (h : ∀ stop, cancelBefore = some stop → turns o capture ≤ stop) (hc : count < turns o capture) :
    drive o cancelBefore count ⟨stepped o capture count, false⟩ =
      ⟨decode o capture, turns o capture, false⟩ := by
  have hu : cancelBefore ≠ some count := fun he => Nat.not_le_of_lt hc (h count he)
  -- The induction is on the turns that are left after this one.
  induction hn : turns o capture - (count + 1) generalizing count with
  | zero =>
      have hlast : turns o capture = count + 1 := by omega
      have hp := poll_ready o capture (Nat.le_of_eq hlast)
      rw [← heed_of_ne hu ⟨stepped o capture count, false⟩] at hp
      rw [drive_ready hp, heed_of_ne hu, hlast]
  | succ n ih =>
      have hnext : count + 1 < turns o capture := by omega
      rw [drive_of_pending o capture hu hnext]
      exact ih hnext (fun he => Nat.not_le_of_lt hnext (h _ he)) (by omega)

theorem drive_alone : (drive o none 0 (start o capture)).outcome = decode o capture := by
  have hpos : 0 < turns o capture := Nat.le_max_left _ _
  have never : ∀ stop, none = some stop → turns o capture ≤ stop := fun _ he => nomatch he
  exact congrArg History.outcome (drive_stepped o capture never hpos)

theorem drive_stopped {stop count : Nat} (hc : count ≤ stop) (h : stop < turns o capture) :
    ∃ outcome, drive o (some stop) count ⟨stepped o capture count, false⟩ =
        ⟨outcome, stop + 1, true⟩ ∧
      outcome.result = .ok (stepped o capture stop).finish.1 := by
  induction hn : stop - count generalizing count with
  | zero =>
      have he : stop = count := by omega
      subst he
      have hh : heed (some stop) stop ⟨stepped o capture stop, false⟩ =
          ⟨stepped o capture stop, true⟩ := if_pos rfl
      obtain ⟨outcome, hp, hr⟩ := poll_cancelled o (stepped o capture stop)
      rw [← hh] at hp
      exact ⟨outcome, by rw [drive_ready hp, hh], hr⟩
  | succ n ih =>
      have hu : some stop ≠ some count := fun he => by cases he; omega
      rw [drive_of_pending o capture hu (by omega)]
      exact ih (by omega) (by omega)

/-- A job ends where some batches reach, whenever it is stopped, and keeps its events if it traces. -/
theorem exists_reached_traced (cancelBefore : Option Nat) : ∃ budgets,
    (drive o cancelBefore 0 (start o capture)).outcome.decoded =
      (Session.reached o (if o.trace then .keep else .discard) capture budgets).finish.1 := by
  have hstart : start o capture = ⟨stepped o capture 0, false⟩ := rfl
  have hpos : 0 < turns o capture := Nat.le_max_left _ _
  rw [hstart]
  by_cases late : ∀ stop, cancelBefore = some stop → turns o capture ≤ stop
  · rw [drive_stepped o capture late hpos]
    exact Session.exists_reached o _ capture
  · simp only [not_forall, Nat.not_le] at late
    obtain ⟨stop, rfl, early⟩ := late
    obtain ⟨outcome, hd, hr⟩ := drive_stopped o capture (Nat.zero_le stop) early
    refine ⟨List.replicate stop (max o.batchSize 1), ?_⟩
    rw [hd, Outcome.decoded, hr]
    rfl

theorem exists_reached (cancelBefore : Option Nat) : ∃ sink budgets,
    (drive o cancelBefore 0 (start o capture)).outcome.decoded =
      (Session.reached o sink capture budgets).finish.1 :=
  ⟨_, exists_reached_traced o capture cancelBefore⟩

/-- A job that is left alone ends as the plain decode does, in as many turns as it has batches. One
that is stopped before an earlier turn ends with exactly the batches that it had. -/
theorem job_decodes :
    drive o none 0 (start o capture) = ⟨decode o capture, turns o capture, false⟩ ∧
    ∀ stop,
      (turns o capture ≤ stop →
        drive o (some stop) 0 (start o capture) = ⟨decode o capture, turns o capture, false⟩) ∧
      (stop < turns o capture →
        ∃ outcome, drive o (some stop) 0 (start o capture) = ⟨outcome, stop + 1, true⟩ ∧
          outcome.result = .ok (stepped o capture stop).finish.1 ∧
          (stepped o capture stop).finish.1.halt = .cancelled ∧
          (stepped o capture stop).finish.1.opcodes = stop * max o.batchSize 1) := by
  have hstart : start o capture = ⟨stepped o capture 0, false⟩ := rfl
  have hpos : 0 < turns o capture := Nat.le_max_left _ _
  rw [hstart]
  refine ⟨?alone, fun stop => ⟨?late, ?early⟩⟩
  case alone => exact drive_stepped o capture (fun _ he => nomatch he) hpos
  case late =>
    intro h
    exact drive_stepped o capture (fun _ he => Option.some.inj he ▸ h) hpos
  case early =>
    intro h
    obtain ⟨outcome, hd, hr⟩ := drive_stopped o capture (Nat.zero_le stop) h
    have hf := stepped_unfinished o capture h
    obtain ⟨hhalt, hop⟩ := Session.finish_unfinished hf
    refine ⟨outcome, hd, hr, hhalt, hop.trans ?_⟩
    calc (stepped o capture stop).decoder.opcodes
        = Session.allowance (List.replicate stop (max o.batchSize 1)) :=
          Session.batches_opcodes o _ capture hf
      _ = stop * max o.batchSize 1 := by
          rw [Session.allowance_replicate, Nat.max_assoc, Nat.max_self]

end LabelStream.Job
