import LabelStream.Proofs.Steering
import Mathlib.Data.List.Induction

/-! Who listens to a decode, and what each listener hears. There is one chronicle of events and notices,
made of the machine alone. Every sink is given all of it and keeps a part, and no sink has a say in the
result. -/
namespace LabelStream

namespace Notice

def event? : Notice → Option Event
  | traced event => some event
  | preambleSkipped _ | compressionMissing | stripsClipped .. | decoded .. | aborted _
  | cancelledAfter _ => none

theorem traced_of_event {notice : Notice} {event : Event} (h : notice.event? = some event) :
    notice = .traced event := by
  cases notice with
  | traced event' => cases h; rfl
  | _ => cases h

end Notice

/-- What a decode notes, in order. -/
abbrev Chronicle := List Notice

namespace Chronicle

def events (c : Chronicle) : List Event := c.filterMap Notice.event?

/-- The notices that pass on no event. -/
def remarks (c : Chronicle) : List Notice := c.filter fun notice => notice.event?.isNone

theorem events_append (c more : Chronicle) : events (c ++ more) = events c ++ events more :=
  List.filterMap_append

theorem events_traced (told : List Event) : events (told.map .traced) = told := by
  induction told with
  | nil => rfl
  | cons event told ih => exact congrArg (event :: ·) ih

end Chronicle

namespace Sink

/-- The events of a chronicle that the sink stores. -/
def stored (c : Chronicle) : Sink → List Event
  | keep | lend => c.events
  | discard | log => []

/-- The notices that are logged of a chronicle while the sink listens. -/
def logged (c : Chronicle) : Sink → List Notice
  | log => c
  | keep | lend | discard => c.remarks

end Sink

namespace Journal

/-- Notes one entry of a chronicle, an event through the sink and anything else in the log. -/
def write (j : Journal) (notice : Notice) : Journal :=
  match notice.event? with
  | some event => j.record event
  | none => j.log notice

def writeAll (j : Journal) (c : Chronicle) : Journal := c.foldl write j

theorem writeAll_append (j : Journal) (c more : Chronicle) :
    j.writeAll (c ++ more) = (j.writeAll c).writeAll more := List.foldl_append

theorem recordAll_eq (j : Journal) (events : List Event) :
    j.recordAll events = j.writeAll (events.map .traced) := by
  rw [writeAll, List.foldl_map]
  rfl

theorem log_eq (j : Journal) {notice : Notice} (h : notice.event? = none) :
    j.log notice = j.writeAll [notice] := by
  simp only [writeAll, List.foldl_cons, List.foldl_nil, write, h]

theorem logIf_eq (j : Journal) (condition : Bool) {notice : Notice} (h : notice.event? = none) :
    j.logIf condition notice = j.writeAll (if condition then [notice] else []) := by
  cases condition with
  | true => exact j.log_eq h
  | false => rfl

/-- A sink that was given a chronicle has its own part of it, in order. -/
theorem writeAll_start (sink : Sink) (c : Chronicle) :
    (start sink).writeAll c = ⟨sink, (sink.stored c).toArray, (sink.logged c).toArray⟩ := by
  induction c using List.reverseRecOn with
  | nil => cases sink <;> rfl
  | append_singleton c notice ih =>
      rw [writeAll_append, ih]
      cases h : notice.event? with
      | none =>
          cases sink <;>
            simp [writeAll, write, log, Sink.stored, Sink.logged, Chronicle.events,
              Chronicle.remarks, h]
      | some event =>
          obtain rfl := Notice.traced_of_event h
          cases sink <;>
            simp [writeAll, write, record, Sink.stored, Sink.logged, Chronicle.events,
              Chronicle.remarks, h]

end Journal

namespace Decoder

/-- What is noted once the decoder goes no further. -/
def farewell (o : Options) (d : Decoder) : Chronicle :=
  (d.fault?.map Notice.aborted).toList ++ [.traced d.summary] ++
    (if o.compressionHint && !d.pen.compression then [.compressionMissing] else []) ++
    (if d.surface.clipped != 0 then
      [.stripsClipped d.surface.clipped d.surface.maxWidth d.surface.maxHeight] else []) ++
    [.decoded d.opcodes d.position d.ending (d.pen.xmax % imageSizes) (d.pen.ymax % imageSizes)]

/-- What is noted of a preamble. -/
def greeting (preamble : Octets) : Chronicle :=
  (preambleEvents preamble).map .traced ++
    (if !preamble.isEmpty then [.preambleSkipped preamble.length] else [])

/-- All that a decode notes that walks `n` commands far. -/
def chronicle (o : Options) (capture : Octets) (n : Nat) : Chronicle :=
  greeting (preambleBytes (.start capture)) ++ ((opened o capture).walk o n).2.map .traced ++
    ((opened o capture).walk o n).1.farewell o

end Decoder

namespace Session

variable (o : Options) (sink : Sink) (capture : Octets)

theorem opened_journal : (opened o sink capture).journal =
    (Journal.start sink).writeAll (Decoder.greeting (Decoder.preambleBytes (.start capture))) := by
  rw [Decoder.greeting, Journal.writeAll_append, ← Journal.recordAll_eq, ← Journal.logIf_eq _ _ rfl,
    ← Journal.recordWith_eq _ fun _ => _]
  rfl

theorem conclude_journal (d : Decoder) (j : Journal) :
    ((⟨d, j⟩ : Session).conclude o).journal = j.writeAll (d.farewell o) := by
  simp only [Decoder.farewell, Journal.writeAll_append]
  rw [← Journal.log_eq _ rfl, ← Journal.logIf_eq _ _ rfl, ← Journal.logIf_eq _ _ rfl]
  rcases d with ⟨phase, cursor, opcodes, pen, surface⟩
  cases phase <;> rfl

/-- The option to trace is read before a decode, not during it. -/
theorem decodeWithSink_trace (trace : Bool) :
    decodeWithSink { o with trace := trace } sink capture = decodeWithSink o sink capture := by
  have alike : Options.Alike { o with trace := trace } o := ⟨rfl, rfl, rfl⟩
  obtain ⟨n, hf⟩ := Decoder.exists_walk_finished o (Decoder.opened o capture)
  have same : steps { o with trace := trace } n (opened { o with trace := trace } sink capture) =
      steps o n (opened o sink capture) := by
    rw [steps_opened, steps_opened, Decoder.walk_alike alike]
    rfl
  have hs : (steps o n (opened o sink capture)).decoder.isFinished = true := by
    rw [steps_opened]
    exact hf
  rw [decodeWithSink_of_steps o sink hs, decodeWithSink_of_steps _ sink (by rwa [same]), same]
  rfl

/-- Whoever listens, a decode notes the same. -/
theorem decodeWithSink_journal {n : Nat}
    (h : ((Decoder.opened o capture).walk o n).1.isFinished = true) :
    (decodeWithSink o sink capture).journal =
      (Journal.start sink).writeAll (Decoder.chronicle o capture n) := by
  have hf : (steps o n (opened o sink capture)).decoder.isFinished = true := by
    rw [steps_opened]
    exact h
  rw [decodeWithSink_of_steps o sink hf, steps_opened, conclude_journal, opened_journal,
    Journal.recordAll_eq, Decoder.chronicle, Journal.writeAll_append, Journal.writeAll_append]

end Session

namespace Chronicle

theorem events_remark (condition : Bool) {notice : Notice} (h : notice.event? = none) :
    events (if condition then [notice] else []) = [] := by
  cases condition <;> simp [events, h]

theorem events_greeting (preamble : Octets) :
    events (Decoder.greeting preamble) = Decoder.preambleEvents preamble := by
  rw [Decoder.greeting, events_append, events_traced, events_remark _ rfl, List.append_nil]

theorem events_farewell (o : Options) (d : Decoder) : events (d.farewell o) = [d.summary] := by
  have fault : events (d.fault?.map Notice.aborted).toList = [] := by
    cases d.fault? <;> rfl
  simp only [Decoder.farewell, events_append]
  rw [fault, events_remark _ rfl, events_remark _ rfl]
  rfl

theorem events_chronicle (o : Options) (capture : Octets) (n : Nat) :
    events (Decoder.chronicle o capture n) =
      Decoder.told o capture n ++ [((Decoder.opened o capture).walk o n).1.summary] := by
  rw [Decoder.chronicle, events_append, events_append, events_greeting, events_traced,
    events_farewell, Decoder.told]

/-- The notices that pass on an event. -/
def lines (c : Chronicle) : Chronicle := c.filter fun notice => notice.event?.isSome

theorem lines_eq (c : Chronicle) : lines c = (events c).map .traced := by
  induction c with
  | nil => rfl
  | cons notice c ih =>
      cases h : notice.event? with
      | none => simpa [lines, events, h] using ih
      | some event =>
          obtain rfl := Notice.traced_of_event h
          simpa [lines, events, h] using ih

/-- Events are all of one level, so either all of them are shown or none. -/
theorem events_shown (c : Chronicle) (level : Level) :
    events (c.filter fun notice => notice.level.rank ≤ level.rank) =
      if Level.debug.rank ≤ level.rank then events c else [] := by
  have each : ∀ notice : Notice,
      (if notice.level.rank ≤ level.rank then notice.event? else none) =
        if Level.debug.rank ≤ level.rank then notice.event? else none := by
    intro notice
    cases h : notice.event? with
    | none => rw [ite_self, ite_self]
    | some event =>
        obtain rfl := Notice.traced_of_event h
        rfl
  simp only [events, List.filterMap_filter, decide_eq_true_eq, each]
  split
  · rfl
  · exact List.filterMap_none c

theorem lines_shown (sink : Sink) (stored : Array Event) (c : Chronicle) (limit : Option Level) :
    lines (Journal.shown ⟨sink, stored, c.toArray⟩ limit) =
      if limit = some .debug ∨ limit = some .trace then (events c).map .traced else [] := by
  cases limit with
  | none => rfl
  | some level =>
      rw [lines_eq]
      simp only [Journal.shown, events_shown]
      cases level <;> rfl

theorem remarks_logged (sink : Sink) (c : Chronicle) : remarks (sink.logged c) = remarks c := by
  cases sink with
  | log => rfl
  | _ => simp only [Sink.logged, remarks, List.filter_filter, Bool.and_self]

theorem remarks_shown (sink : Sink) (stored stored' : Array Event) (c : Chronicle)
    (limit : Option Level) :
    remarks (Journal.shown ⟨sink, stored, (sink.logged c).toArray⟩ limit) =
      Journal.shown ⟨.discard, stored', (remarks c).toArray⟩ limit := by
  cases limit with
  | none => rfl
  | some level =>
      rw [← remarks_logged sink c]
      exact List.filter_comm _ _ _

end Chronicle

namespace Decoded

def silent (d : Decoded) : Decoded := { d with trace := none }

end Decoded

/-- The outcome of a decode but for its trace. -/
def Outcome.silent (outcome : Outcome) : Except Failure Decoded :=
  (outcome.result.map Decoded.silent).mapError fun failure => ⟨failure.fault, failure.decoded.silent⟩

theorem Outcome.silent_eq {outcome : Outcome} {d : Decoder} {trace : Option (List Event)}
    (h : outcome.result = d.result trace) : outcome.silent = d.result none := by
  rcases d with ⟨phase, cursor, opcodes, pen, surface⟩
  rw [silent, h]
  cases phase <;> rfl

/-- Listening changes nothing. Every sink leads to the same outcome, only a traced decode has the trace
in it, and all that pass events on pass on the same ones. A log shows them if it shows what is as
unimportant as that, and what it shows besides does not depend on the sink. -/
theorem listening_changes_nothing (o : Options) (capture : Octets) :
    let untraced := decode { o with trace := false } capture
    let traced := decode { o with trace := true } capture
    let lent := decodeWithSink o .lend capture
    let logged := decodeWithSink o .log capture
    untraced.decoded.trace = none ∧
    traced.silent = untraced.result ∧
    (∀ sink ∈ [Sink.lend, .discard, .log],
      (decodeWithSink o sink capture).result = untraced.result) ∧
    ∃ told,
      traced.decoded.trace = some told ∧
      lent.journal.events.toList = told ∧
      ∀ limit,
        Chronicle.lines (logged.journal.shown limit) =
          (if limit = some .debug ∨ limit = some .trace then told.map .traced else []) ∧
        (Chronicle.lines (logged.journal.shown limit)).map Notice.message =
          (if limit = some .debug ∨ limit = some .trace then told.map Event.text else []) ∧
        ∀ sink, Chronicle.remarks ((decodeWithSink o sink capture).journal.shown limit) =
          untraced.journal.shown limit := by
  intro untraced traced lent logged
  have huntraced : untraced = decodeWithSink o .discard capture :=
    Session.decodeWithSink_trace o .discard capture false
  have htraced : traced = decodeWithSink o .keep capture :=
    Session.decodeWithSink_trace o .keep capture true
  obtain ⟨n, hf⟩ := Decoder.exists_walk_finished o (Decoder.opened o capture)
  have result := fun sink => Session.decodeWithSink_result o sink capture hf
  have parts : ∀ sink, (decodeWithSink o sink capture).journal = _ := fun sink =>
    (Session.decodeWithSink_journal o sink capture hf).trans (Journal.writeAll_start sink _)
  have events := Chronicle.events_chronicle o capture n
  have hsilent : untraced.result = _ := (congrArg Outcome.result huntraced).trans (result .discard)
  have htold : traced.result = _ := (congrArg Outcome.result htraced).trans (result .keep)
  refine ⟨?off, ?outcome, ?sinks, (Decoder.chronicle o capture n).events, ?on, ?lent, ?log⟩
  case off =>
    rw [decode_decoded hsilent]
    rfl
  case outcome =>
    rw [hsilent, Outcome.silent_eq htold]
    rfl
  case sinks =>
    intro sink hsink
    have other : sink ≠ .keep := by
      rintro rfl
      exact absurd hsink (by decide)
    rw [hsilent, result, if_neg other]
    rfl
  case on =>
    rw [decode_decoded htold, events]
    rfl
  case lent => rw [parts .lend]; rfl
  case log =>
    intro limit
    have lines : Chronicle.lines (logged.journal.shown limit) = _ :=
      (congrArg (Chronicle.lines <| Journal.shown · limit) (parts .log)).trans
        (Chronicle.lines_shown _ _ _ limit)
    refine ⟨lines, ?_, ?_⟩
    · rw [lines, apply_ite (List.map Notice.message), List.map_map]
      rfl
    · intro sink
      rw [huntraced, parts sink, parts .discard]
      exact Chronicle.remarks_shown sink _ _ _ limit

end LabelStream
