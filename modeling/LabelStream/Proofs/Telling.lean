import LabelStream.Proofs.Batching

/-! What a decode tells, whoever listens. The machine alone gives a list of events with every stretch
of commands, a session hands exactly that list to its sink, and the result is read off the two. -/
namespace LabelStream

namespace Journal

/-- The sink was given these events and no others. Only one that keeps them can show it. -/
structure Holds (sink : Sink) (events : List Event) (j : Journal) : Prop where
  sink_eq : j.sink = sink
  kept : sink = .keep → j.events.toList = events

theorem start_holds (sink : Sink) : (start sink).Holds sink [] := ⟨rfl, fun _ => rfl⟩

variable {sink : Sink} {events : List Event} {j : Journal}

theorem Holds.log (h : j.Holds sink events) (notice : Notice) : (j.log notice).Holds sink events :=
  ⟨h.sink_eq, h.kept⟩

theorem Holds.logIf (h : j.Holds sink events) (condition : Bool) (notice : Notice) :
    (j.logIf condition notice).Holds sink events := by
  unfold Journal.logIf
  split
  · exact h.log notice
  · exact h

theorem Holds.record (h : j.Holds sink events) (event : Event) :
    (j.record event).Holds sink (events ++ [event]) := by
  rcases j with ⟨own, stored, notices⟩
  obtain ⟨rfl, kept⟩ := h
  cases own with
  | keep =>
      refine ⟨rfl, fun _ => ?_⟩
      rw [← kept rfl]
      exact Array.toList_push
  | discard => exact ⟨rfl, fun hk => nomatch hk⟩
  | lend => exact ⟨rfl, fun hk => nomatch hk⟩
  | log => exact ⟨rfl, fun hk => nomatch hk⟩

theorem Holds.recordAll (h : j.Holds sink events) (more : List Event) :
    (j.recordAll more).Holds sink (events ++ more) := by
  induction more generalizing j events with
  | nil =>
      rw [List.append_nil]
      exact h
  | cons event more ih =>
      have hm := ih (h.record event)
      rw [List.append_assoc] at hm
      exact hm

theorem Holds.trace_eq (h : j.Holds sink events) :
    j.trace? = if sink = .keep then some events else none := by
  rcases j with ⟨own, stored, notices⟩
  obtain ⟨rfl, kept⟩ := h
  cases own with
  | keep => exact congrArg some (kept rfl)
  | discard => rfl
  | lend => rfl
  | log => rfl

theorem recordAll_append (j : Journal) (events more : List Event) :
    j.recordAll (events ++ more) = (j.recordAll events).recordAll more := List.foldl_append

end Journal

namespace Decoder

/-- Up to `n` commands, or a halt where none is left, and all that they tell. -/
def walk (o : Options) : Nat → Decoder → Decoder × List Event
  | 0, d => if !d.isFinished && d.cursor.atEnd then d.advance o else (d, [])
  | n + 1, d =>
    if d.isFinished then (d, [])
    else
      let onward := walk o n (d.advance o).1
      (onward.1, (d.advance o).2 ++ onward.2)

variable (o : Options)

theorem walk_of_finished {d : Decoder} (h : d.isFinished = true) (n : Nat) : d.walk o n = (d, []) := by
  cases n with
  | zero => simp only [walk, h, Bool.not_true, Bool.false_and, Bool.false_eq_true, if_false]
  | succ n => simp only [walk, h, if_true]

theorem walk_succ {d : Decoder} (h : d.isFinished = false) (n : Nat) :
    d.walk o (n + 1) =
      (((d.advance o).1.walk o n).1, (d.advance o).2 ++ ((d.advance o).1.walk o n).2) := by
  simp only [walk, h, Bool.false_eq_true, if_false]

theorem walk_of_atEnd {d : Decoder} (hf : d.isFinished = false) (he : d.cursor.atEnd = true) :
    d.walk o 0 = ({ d with phase := .halted .endOfStream }, []) := by
  simp only [walk, hf, he, Bool.not_false, Bool.and_self, if_true, advance_atEnd o he]

theorem walk_zero {d : Decoder} (he : d.cursor.atEnd = false) : d.walk o 0 = (d, []) := by
  simp only [walk, he, Bool.and_false, Bool.false_eq_true, if_false]

/-- What holds of a decoder and survives every move holds wherever a walk leads. -/
theorem walk_induction {P : Decoder → Prop} {d : Decoder} (start : P d)
    (move : ∀ d, d.isFinished = false → P d → P (d.advance o).1) (n : Nat) : P (d.walk o n).1 := by
  induction n generalizing d with
  | zero =>
      unfold walk
      split
      next h =>
        simp only [Bool.and_eq_true, Bool.not_eq_true'] at h
        exact move d h.1 start
      next => exact start
  | succ n ih =>
      cases hf : d.isFinished with
      | true =>
          rw [walk_of_finished o hf]
          exact start
      | false =>
          rw [walk_succ o hf]
          exact ih (move d hf start)

/-- Every decode comes to an end. -/
theorem exists_walk_finished (d : Decoder) : ∃ n, (d.walk o n).1.isFinished = true := by
  induction hn : d.remaining using Nat.strongRecOn generalizing d with
  | ind size ih =>
      cases hf : d.isFinished with
      | true => exact ⟨0, by rw [walk_of_finished o hf, hf]⟩
      | false =>
          have hlt := d.advance_remaining_lt o hf
          rw [hn] at hlt
          obtain ⟨n, hw⟩ := ih _ hlt _ rfl
          exact ⟨n + 1, by rw [walk_succ o hf]; exact hw⟩

/-- Where a decode of the capture stands once its preamble is passed. -/
def opened (capture : Octets) : Decoder := (start o capture).skipPreamble

/-- How the decode ended, if it goes no further. -/
def ending (d : Decoder) : Halt :=
  match d.phase with
  | .halted halt => halt
  | .failed fault => .aborted fault.position
  | .preamble | .dispatch => .cancelled

/-- The event that closes every trace. -/
def summary (d : Decoder) : Event :=
  ⟨d.position, .finished d.ending (d.pen.xmax % imageSizes) (d.pen.ymax % imageSizes)⟩

def decoded (d : Decoder) (trace : Option (List Event)) : Decoded :=
  ⟨d.surface, d.pen.xmax % imageSizes, d.pen.ymax % imageSizes, d.pen, d.ending, d.position,
    d.opcodes, trace⟩

def result (d : Decoder) (trace : Option (List Event)) : Except Failure Decoded :=
  match d.phase with
  | .failed fault => .error ⟨fault, d.decoded trace⟩
  | .preamble | .dispatch | .halted _ => .ok (d.decoded trace)

theorem result_halted {d : Decoder} {halt : Halt} (h : d.phase = .halted halt)
    (trace : Option (List Event)) : d.result trace = .ok (d.decoded trace) ∧
      (d.decoded trace).halt = halt ∧ (d.decoded trace).consumed = d.cursor.position := by
  rcases d with ⟨phase, cursor, opcodes, pen, surface⟩
  cases h
  exact ⟨rfl, rfl, rfl⟩

end Decoder

namespace Session

variable (o : Options)

/-- A session is the machine and a journal that is told what the machine tells. -/
theorem steps_walk (n : Nat) (d : Decoder) (j : Journal) :
    steps o n ⟨d, j⟩ = ⟨(d.walk o n).1, j.recordAll (d.walk o n).2⟩ := by
  induction n generalizing d j with
  | zero =>
      simp only [steps, Decoder.walk]
      split <;> rfl
  | succ n ih =>
      cases hf : d.isFinished with
      | true =>
          rw [Decoder.walk_of_finished o hf]
          exact steps_of_finished o hf (n + 1)
      | false =>
          rw [steps_succ o hf, Decoder.walk_succ o hf, Journal.recordAll_append]
          exact ih (d.advance o).1 (j.recordAll (d.advance o).2)

theorem finish_eq {s : Session} {sink : Sink} {events : List Event} (h : s.journal.Holds sink events) :
    s.finish.1 = s.decoder.decoded
      (if sink = .keep then some (events ++ [s.decoder.summary]) else none) := by
  rw [← (h.record s.decoder.summary).trace_eq]
  rfl

theorem conclude_eq {s : Session} {sink : Sink} {events : List Event}
    (h : s.journal.Holds sink events) : (s.conclude o).result = s.decoder.result
      (if sink = .keep then some (events ++ [s.decoder.summary]) else none) := by
  rcases s with ⟨⟨phase, cursor, opcodes, pen, surface⟩, journal⟩
  cases phase with
  | failed fault =>
      exact congrArg (fun d => Except.error (Failure.mk fault d)) (finish_eq (h.log (.aborted fault)))
  | preamble => exact congrArg Except.ok (finish_eq h)
  | dispatch => exact congrArg Except.ok (finish_eq h)
  | halted halt => exact congrArg Except.ok (finish_eq h)

variable (sink : Sink) (capture : Octets)

theorem steps_opened (n : Nat) :
    steps o n (opened o sink capture) = ⟨((Decoder.opened o capture).walk o n).1,
      (opened o sink capture).journal.recordAll ((Decoder.opened o capture).walk o n).2⟩ :=
  steps_walk o n (Decoder.opened o capture) (opened o sink capture).journal

theorem reached_walk {budgets : List Nat} (h : budgets ≠ []) :
    (reached o sink capture budgets).decoder =
      ((Decoder.opened o capture).walk o (allowance budgets)).1 := by
  rw [reached, batches_start o sink capture h, steps_opened]

theorem opened_holds : (opened o sink capture).journal.Holds sink
    (Decoder.preambleEvents (Decoder.preambleBytes (.start capture))) := by
  have h := (Journal.start_holds sink).recordAll
    (Decoder.preambleEvents (Decoder.preambleBytes (.start capture)))
  rw [List.nil_append, ← Journal.recordWith_eq _ fun _ => _] at h
  exact h.logIf _ _

/-- A decode walks until it is finished, and the walk says everything about its result. -/
theorem decodeWithSink_result {n : Nat}
    (h : ((Decoder.opened o capture).walk o n).1.isFinished = true) :
    (decodeWithSink o sink capture).result = ((Decoder.opened o capture).walk o n).1.result
      (if sink = .keep then
        some (Decoder.preambleEvents (Decoder.preambleBytes (.start capture)) ++
          ((Decoder.opened o capture).walk o n).2 ++
          [((Decoder.opened o capture).walk o n).1.summary])
      else none) := by
  have hf : (steps o n (opened o sink capture)).decoder.isFinished = true := by
    rw [steps_opened]
    exact h
  rw [decodeWithSink_of_steps o sink hf, steps_opened]
  exact conclude_eq o ((opened_holds o sink capture).recordAll _)

end Session

/-- The events of a traced decode that walked `n` commands far. -/
def Decoder.told (o : Options) (capture : Octets) (n : Nat) : List Event :=
  preambleEvents (preambleBytes (.start capture)) ++ ((opened o capture).walk o n).2

theorem decode_result (o : Options) (capture : Octets) {n : Nat}
    (h : ((Decoder.opened o capture).walk o n).1.isFinished = true) :
    (decode o capture).result = ((Decoder.opened o capture).walk o n).1.result
      (if o.trace then
        some (Decoder.told o capture n ++ [((Decoder.opened o capture).walk o n).1.summary])
      else none) := by
  rw [decode, Session.decodeWithSink_result o _ capture h]
  cases o.trace <;> rfl

theorem decode_decoded {o : Options} {capture : Octets} {d : Decoder} {trace : Option (List Event)}
    (h : (decode o capture).result = d.result trace) : (decode o capture).decoded = d.decoded trace := by
  rcases d with ⟨phase, cursor, opcodes, pen, surface⟩
  rw [Outcome.decoded, h]
  cases phase <;> rfl

end LabelStream
