import LabelStream.Session

/-! A decode that a host runs a batch at a time and may stop between two batches. -/
namespace LabelStream

structure Job where
  session : Session
  /-- The host has asked for an end. -/
  cancelled : Bool

namespace Job

def start (o : Options) (capture : Octets) : Job :=
  ⟨.start o (if o.trace then .keep else .discard) capture, false⟩

/-- What one turn of the job leaves. -/
inductive Turn where
  | pending (job : Job)
  | ready (outcome : Outcome)

/-- Gives the job one turn: a batch, or the end if the host has asked for it. -/
def poll (o : Options) (job : Job) : Turn :=
  if job.cancelled then
    let opcodes := job.session.decoder.opcodes
    let session := ⟨job.session.decoder, job.session.journal.log (.cancelledAfter opcodes)⟩
    let (decoded, journal) := Session.finish session
    .ready ⟨.ok decoded, Session.closing o decoded journal⟩
  else
    let session := job.session.step o o.batchSize
    if session.decoder.isFinished then .ready (session.conclude o) else .pending ⟨session, false⟩

/-- How a job went that was given turns until its end. -/
structure History where
  outcome : Outcome
  polls : Nat
  cancelled : Bool

/-- A turn that leaves more to do ends the job or takes a byte. -/
theorem poll_remaining_lt {o : Options} {job next : Job} (h : job.poll o = .pending next) :
    next.session.decoder.remaining < job.session.decoder.remaining := by
  unfold poll at h
  split at h
  · cases h
  · dsimp only at h
    split at h
    · cases h
    next hn =>
      cases h
      cases hj : job.session.decoder.isFinished with
      | false => exact job.session.step_remaining_lt o _ hj
      | true => rw [job.session.step_of_finished o _ hj] at hn; exact absurd hj hn

def heed (cancelBefore : Option Nat) (polls : Nat) (job : Job) : Job :=
  if cancelBefore = some polls then { job with cancelled := true } else job

theorem heed_session (cancelBefore : Option Nat) (polls : Nat) (job : Job) :
    (job.heed cancelBefore polls).session = job.session := by
  unfold heed
  split <;> rfl

/-- Gives turns until the end. Before turn number `cancelBefore`, if that is reached, the host asks
for an end; `polls` turns have been given already. -/
def drive (o : Options) (cancelBefore : Option Nat) (polls : Nat) (job : Job) : History :=
  match _h : (job.heed cancelBefore polls).poll o with
  | .ready outcome => ⟨outcome, polls + 1, (job.heed cancelBefore polls).cancelled⟩
  | .pending next => drive o cancelBefore (polls + 1) next
termination_by job.session.decoder.remaining
decreasing_by rw [← job.heed_session cancelBefore polls]; exact poll_remaining_lt _h

end Job
end LabelStream
