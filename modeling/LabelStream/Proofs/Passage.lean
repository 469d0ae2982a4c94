import LabelStream.Proofs.Acceptance

/-! The part of a capture that is fully understood: a preamble and complete commands. Whatever comes
behind it, the decoder gets there in one way, with the same drawn and the same told. -/
namespace LabelStream

/-- Nothing, or an escape first: what can stand behind a preamble. -/
def Escaped (bytes : Octets) : Prop := bytes = [] ∨ ∃ tail, bytes = escapeByte :: tail

theorem Escaped.of_append {bytes more : Octets} (h : Escaped (bytes ++ more)) : Escaped bytes := by
  cases bytes with
  | nil => exact .inl rfl
  | cons b bytes =>
      obtain h | ⟨tail, h⟩ := h
      · cases h
      · rw [List.cons_append] at h
        obtain ⟨rfl, _⟩ := List.cons.inj h
        exact .inr ⟨bytes, rfl⟩

theorem Escaped.append {bytes : Octets} (h : Escaped bytes) (present : bytes ≠ []) (more : Octets) :
    Escaped (bytes ++ more) := by
  obtain rfl | ⟨tail, rfl⟩ := h
  · exact absurd rfl present
  · exact .inr ⟨tail ++ more, rfl⟩

structure Passage (o : Options) where
  preamble : Octets
  words : List Octets
  commands : List Command
  /-- Whether raster lines are coded behind it. -/
  mode : Bool
  plain : escapeByte ∉ preamble
  spelt : Sentence o.acceptAnyGraphicsMode false words commands mode

namespace Passage

variable {o : Options} (q : Passage o)

def before (tail : Octets) : Octets := q.preamble ++ (q.words.flatten ++ tail)

def size : Nat := q.preamble.length + q.words.flatten.length

def drawn : Sheet := q.commands.foldl (Sheet.perform o) ⟨.home, .blank o.maxWidth o.maxHeight⟩

/-- The decoder that has the passage behind it and the tail still to read. -/
def behind (tail : Octets) : Decoder := .ready ⟨q.size, tail⟩ q.words.length q.drawn

theorem drawn_compression : q.drawn.pen.compression = q.mode := q.spelt.compression o rfl

theorem reading_behind (tail : Octets) :
    (q.behind tail).reading o = Grammar.read ⟨q.mode, o.acceptAnyGraphicsMode⟩ ⟨q.size, tail⟩ := by
  rw [← q.drawn_compression]
  exact Decoder.reading_ready o _ _ _

theorem before_take (tail : Octets) (k : Nat) :
    (q.before tail).take (q.size + k) = q.before (tail.take k) := by
  rw [before, before, ← List.append_assoc, ← List.append_assoc, size, ← List.length_append,
    List.take_length_add_append]

theorem before_length (tail : Octets) : (q.before tail).length = q.size + tail.length := by
  rw [before, size, List.length_append, List.length_append, Nat.add_assoc]

theorem opened_before {tail : Octets} (he : Escaped (q.words.flatten ++ tail)) :
    Decoder.opened o (q.before tail) = .ready ⟨q.preamble.length, q.words.flatten ++ tail⟩ 0
      ⟨.home, .blank o.maxWidth o.maxHeight⟩ :=
  Session.opened_decoder o .discard q.plain he

theorem preambleBytes_before {tail : Octets} (he : Escaped (q.words.flatten ++ tail)) :
    Decoder.preambleBytes (.start (q.before tail)) = q.preamble :=
  Session.takeWhile_preamble q.plain he

/-- Up to the end of the passage a decode tells this, and its result depends on nothing else but where
the passage leaves the decoder. -/
def Tells (told : List Event) : Prop :=
  ∀ tail, Escaped (q.words.flatten ++ tail) → ∀ m last events,
    (q.behind tail).walk o m = (last, events) → last.isFinished = true →
    (decode o (q.before tail)).result =
      last.result (if o.trace then some (told ++ events ++ [last.summary]) else none)

theorem exists_tells : ∃ told, q.Tells told := by
  have hmode : (Sheet.mk .home (.blank o.maxWidth o.maxHeight)).pen.compression = false := rfl
  obtain ⟨told, ht⟩ := Decoder.walk_sentence o q.spelt q.preamble.length hmode
  refine ⟨Decoder.preambleEvents q.preamble ++ told, ?_⟩
  intro tail he m last events hw hf
  have hwalk : (Decoder.opened o (q.before tail)).walk o (q.words.length + m) =
      (last, told ++ events) := by
    rw [q.opened_before he, ht 0 tail m, Nat.zero_add]
    change (((q.behind tail).walk o m).1, told ++ ((q.behind tail).walk o m).2) = _
    rw [hw]
  have hfinished : ((Decoder.opened o (q.before tail)).walk o (q.words.length + m)).1.isFinished =
      true := by
    rw [hwalk]
    exact hf
  rw [decode_result o (q.before tail) hfinished, Decoder.told, hwalk, q.preambleBytes_before he,
    ← List.append_assoc]

/-- The decoder that ran out of data right behind the passage. -/
def closed : Decoder := { q.behind [] with phase := .halted .endOfStream }

theorem Tells.closed {q : Passage o} {told : List Event} (h : q.Tells told)
    (he : Escaped q.words.flatten) : (decode o (q.before [])).result =
      .ok (q.closed.decoded (if o.trace then some (told ++ [q.closed.summary]) else none)) := by
  have hw : (q.behind []).walk o 0 = (q.closed, []) := Decoder.walk_of_atEnd o rfl rfl
  have hr := h [] (by rwa [List.append_nil]) 0 q.closed [] hw rfl
  rw [List.append_nil] at hr
  exact hr

end Passage

/-- The commands of a parse are a passage, and its ending is what stands behind them. -/
theorem Parse.Of.passage {o : Options} {capture : Octets} {parse : Parse} (h : parse.Of o capture) :
    ∃ (q : Passage o) (tail : Octets), q.preamble = parse.preamble ∧ q.words = parse.words ∧
      capture = q.before tail ∧ Escaped (q.words.flatten ++ tail) ∧
      Ends ⟨q.mode, o.acceptAnyGraphicsMode⟩ tail parse.ending := by
  obtain ⟨rest, tail, commands, last, hc, hp, hr, hb, hs, he⟩ := h
  subst hb
  exact ⟨⟨parse.preamble, parse.words, commands, last, hp, hs⟩, tail, rfl, rfl, hc, hr, he⟩

end LabelStream
