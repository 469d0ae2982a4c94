import LabelStream.Trace

/-! What a decode leaves behind besides the picture: the events that its sink keeps and the notices
that it logs. -/
namespace LabelStream

/-- Importance of a notice, least important last. No notice is as unimportant as `trace`, but a log
may ask for that much. -/
inductive Level where
  | error
  | warn
  | info
  | debug
  | trace
  deriving Repr, DecidableEq

def Level.rank : Level → Nat
  | error => 1
  | warn => 2
  | info => 3
  | debug => 4
  | trace => 5

def Level.label : Level → String
  | error => "ERROR"
  | warn => "WARN"
  | info => "INFO"
  | debug => "DEBUG"
  | trace => "TRACE"

inductive Notice where
  | traced (event : Event)
  | preambleSkipped (bytes : Nat)
  | compressionMissing
  | stripsClipped (strips maxWidth maxHeight : Nat)
  | decoded (opcodes bytes : Nat) (halt : Halt) (width height : Nat)
  | aborted (fault : Fault)
  | cancelledAfter (opcodes : Nat)
  deriving Repr, DecidableEq

namespace Notice

def level : Notice → Level
  | traced _ | preambleSkipped _ | decoded .. => .debug
  | compressionMissing | stripsClipped .. | aborted _ => .warn
  | cancelledAfter _ => .info

def message : Notice → String
  | traced event => event.text
  | preambleSkipped bytes => "Skipped " ++ toString bytes ++ " preamble bytes"
  | compressionMissing => "Compression was expected but the stream never sent M 2"
  | stripsClipped strips maxWidth maxHeight =>
    toString strips ++ " strips fell outside the " ++ toString maxWidth ++ "x" ++
      toString maxHeight ++ " surface and were clipped"
  | decoded opcodes bytes halt width height =>
    "Decoded " ++ toString opcodes ++ " opcodes from " ++ toString bytes ++ " bytes: " ++
      halt.message ++ " (" ++ toString width ++ "x" ++ toString height ++ ")"
  | aborted fault => "Decode aborted: " ++ fault.message
  | cancelledAfter opcodes => "Decode cancelled after " ++ toString opcodes ++ " opcodes"

end Notice

inductive Sink where
  /-- Nowhere. -/
  | discard
  /-- Into the result of the decode. -/
  | keep
  /-- To the caller, but not into the result. -/
  | lend
  /-- Into the log, as notices of level `debug`. -/
  | log
  deriving Repr, DecidableEq

/-- The events and notices of one decode, in the order in which they came. -/
structure Journal where
  sink : Sink
  events : Array Event
  notices : Array Notice

namespace Journal

def start (sink : Sink) : Journal := ⟨sink, #[], #[]⟩

def log (notice : Notice) : Journal → Journal
  | ⟨sink, events, notices⟩ => ⟨sink, events, notices.push notice⟩

def logIf (condition : Bool) (notice : Notice) (j : Journal) : Journal :=
  if condition then j.log notice else j

def record (j : Journal) (event : Event) : Journal :=
  match j with
  | ⟨sink, events, notices⟩ =>
    match sink with
    | .discard => ⟨sink, events, notices⟩
    | .keep | .lend => ⟨sink, events.push event, notices⟩
    | .log => ⟨sink, events, notices.push (.traced event)⟩

def recordAll (j : Journal) (events : List Event) : Journal := events.foldl record j

theorem recordAll_of_discard {j : Journal} (h : j.sink = .discard) (events : List Event) :
    j.recordAll events = j := by
  induction events with
  | nil => rfl
  | cons event events ih =>
    have hr : j.record event = j := by
      cases j
      cases h
      rfl
    simpa only [recordAll, List.foldl_cons, hr] using ih

/-- Hands over events that are not even made where nobody keeps them. -/
def recordWith (j : Journal) (events : Unit → List Event) : Journal :=
  if j.sink = .discard then j else j.recordAll (events ())

theorem recordWith_eq (j : Journal) (events : Unit → List Event) :
    j.recordWith events = j.recordAll (events ()) := by
  unfold recordWith
  split
  next h => exact (recordAll_of_discard h _).symm
  next => rfl

def trace? (j : Journal) : Option (List Event) :=
  match j.sink with
  | .keep => some j.events.toList
  | .discard | .lend | .log => none

/-- The notices that are shown where `limit` is the least important level wanted; without one
nothing is shown. -/
def shown (j : Journal) (limit : Option Level) : List Notice :=
  match limit with
  | none => []
  | some level => j.notices.toList.filter fun notice => notice.level.rank ≤ level.rank

end Journal
end LabelStream
