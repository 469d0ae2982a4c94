import LabelStream.Proofs.Telling
import LabelStream.Proofs.Drawing

/-! Commands one after the other. A decoder takes such a sentence word by word, each word in the mode
that the ones before it have set, and stands behind it with everything drawn. -/
namespace LabelStream

/-- Words that are complete commands. The mode is whether raster lines are coded, first before the
words and then behind them. -/
inductive Sentence (lenient : Bool) : Bool → List Octets → List Command → Bool → Prop
  | nil (mode : Bool) : Sentence lenient mode [] [] mode
  | cons {mode last : Bool} {word : Octets} {command : Command} {words : List Octets}
      {commands : List Command} (spelt : Spells ⟨mode, lenient⟩ word command)
      (rest : Sentence lenient (command.modeAfter mode) words commands last) :
      Sentence lenient mode (word :: words) (command :: commands) last

theorem Sentence.compression {lenient mode last : Bool} {words : List Octets}
    {commands : List Command} (h : Sentence lenient mode words commands last) (o : Options)
    {s : Sheet} (hm : s.pen.compression = mode) :
    (commands.foldl (Sheet.perform o) s).pen.compression = last := by
  induction h generalizing s with
  | nil mode => exact hm
  | @cons mode last word command words commands spelt rest ih =>
      apply ih
      rw [Sheet.perform_compression, hm]

namespace Decoder

/-- A decoder that stands where a command is expected. -/
def ready (cursor : Cursor) (opcodes : Nat) (s : Sheet) : Decoder :=
  ⟨.dispatch, cursor, opcodes, s.pen, s.surface⟩

theorem reading_ready (o : Options) (c : Cursor) (n : Nat) (s : Sheet) :
    (ready c n s).reading o = Grammar.read ⟨s.pen.compression, o.acceptAnyGraphicsMode⟩ c := rfl

theorem perform_ready (o : Options) (command : Command) (c : Cursor) (n : Nat) (s : Sheet) :
    (ready c n s).perform o command = ready c n (s.perform o command) := by
  rw [Sheet.perform, Sheet.foldl_bar]
  rfl

theorem advance_whole {o : Options} {c after : Cursor} {command : Command} {s : Sheet}
    (h : Grammar.read ⟨s.pen.compression, o.acceptAnyGraphicsMode⟩ c = .whole command after) (n : Nat) :
    (ready c n s).advance o =
      (ready after (n + 1) (s.perform o command), command.events c.position s.pen) := by
  rw [← reading_ready o c n s] at h
  simp only [advance, h]
  exact congrArg (·, _) (perform_ready o command after (n + 1) s)

/-- A walk over a sentence stands behind it. What it tells on the way does not depend on what comes
then. -/
theorem walk_sentence (o : Options) {mode last : Bool} {words : List Octets} {commands : List Command}
    (h : Sentence o.acceptAnyGraphicsMode mode words commands last) (p : Nat) {sheet : Sheet}
    (hm : sheet.pen.compression = mode) :
    ∃ told, ∀ n rest m,
      (ready ⟨p, words.flatten ++ rest⟩ n sheet).walk o (words.length + m) =
        (((ready ⟨p + words.flatten.length, rest⟩ (n + words.length)
            (commands.foldl (Sheet.perform o) sheet)).walk o m).1,
          told ++ ((ready ⟨p + words.flatten.length, rest⟩ (n + words.length)
            (commands.foldl (Sheet.perform o) sheet)).walk o m).2) := by
  induction h generalizing sheet p with
  | nil mode => exact ⟨[], fun n rest m => by rw [List.length_nil, Nat.zero_add]; rfl⟩
  | @cons mode last word command words commands spelt rest' ih =>
      obtain ⟨told, ht⟩ := ih (p + word.length) (by rw [Sheet.perform_compression o, hm])
      refine ⟨command.events p sheet.pen ++ told, fun n rest m => ?_⟩
      have hr := Grammar.read_spells spelt p (words.flatten ++ rest)
      rw [← hm] at hr
      rw [List.flatten_cons, List.append_assoc, List.length_cons, Nat.add_right_comm,
        walk_succ o rfl, advance_whole hr, ht, List.foldl_cons, List.length_append, List.append_assoc,
        Nat.add_assoc p, Nat.add_assoc n, Nat.add_comm 1]

end Decoder

namespace Session

variable (o : Options)

theorem steps_sentence {mode last : Bool} {words : List Octets} {commands : List Command}
    (h : Sentence o.acceptAnyGraphicsMode mode words commands last) {s : Session} {sheet : Sheet}
    {p n : Nat} {rest : Octets} (hm : sheet.pen.compression = mode)
    (hs : s.decoder = .ready ⟨p, words.flatten ++ rest⟩ n sheet) :
    ∃ s', (∀ m, steps o (words.length + m) s = steps o m s') ∧
      s'.decoder = .ready ⟨p + words.flatten.length, rest⟩ (n + words.length)
        (commands.foldl (Sheet.perform o) sheet) := by
  obtain ⟨told, ht⟩ := Decoder.walk_sentence o h p hm
  rcases s with ⟨d, j⟩
  change d = _ at hs
  subst hs
  refine ⟨⟨_, j.recordAll told⟩, fun m => ?_, rfl⟩
  rw [steps_walk, steps_walk, ht]
  exact congrArg (Session.mk _) (j.recordAll_append told _)

/-- A preamble ends at the first escape, so there is one way to take it off. -/
theorem takeWhile_preamble {preamble rest : Octets} (hp : escapeByte ∉ preamble)
    (hr : rest = [] ∨ ∃ tail, rest = escapeByte :: tail) :
    (preamble ++ rest).takeWhile (· != escapeByte) = preamble := by
  have hall : ∀ b ∈ preamble, (b != escapeByte) = true := by
    intro b hb
    exact bne_iff_ne.mpr fun he => hp (he ▸ hb)
  rw [List.takeWhile_append_of_pos hall]
  rcases hr with rfl | ⟨tail, rfl⟩
  · rw [List.takeWhile_nil, List.append_nil]
  · rw [List.takeWhile_cons_of_neg (by decide), List.append_nil]

variable (sink : Sink)

theorem opened_decoder {preamble rest : Octets} (hp : escapeByte ∉ preamble)
    (hr : rest = [] ∨ ∃ tail, rest = escapeByte :: tail) :
    (opened o sink (preamble ++ rest)).decoder =
      .ready ⟨preamble.length, rest⟩ 0 ⟨.home, .blank o.maxWidth o.maxHeight⟩ := by
  have ht : Decoder.preambleBytes ⟨0, preamble ++ rest⟩ = preamble := takeWhile_preamble hp hr
  have hc := Cursor.take_word 0 preamble rest
  rw [Nat.zero_add] at hc
  change (Decoder.start o (preamble ++ rest)).skipPreamble = _
  simp only [Decoder.skipPreamble, Decoder.start, ht, Cursor.start, hc]
  rfl

theorem conclude_halted {s : Session} {halt : Halt} (h : s.decoder.phase = .halted halt) :
    (s.conclude o).result = .ok s.finish.1 ∧ s.finish.1.halt = halt := by
  rcases s with ⟨⟨phase, cursor, opcodes, pen, surface⟩, journal⟩
  cases h
  exact ⟨rfl, rfl⟩

/-- A sentence is decoded to its end, and nothing but its commands is drawn. -/
theorem decodeWithSink_sentence {last : Bool} {words : List Octets} {commands : List Command}
    (h : Sentence o.acceptAnyGraphicsMode false words commands last)
    (escaped : words.flatten = [] ∨ ∃ tail, words.flatten = escapeByte :: tail) :
    ∃ d, (decodeWithSink o sink words.flatten).result = .ok d ∧ d.halt = .endOfStream ∧
      d.opcodes = words.length ∧ d.consumed = words.flatten.length ∧
      Sheet.mk d.pen d.surface =
        commands.foldl (Sheet.perform o) ⟨.home, .blank o.maxWidth o.maxHeight⟩ := by
  have hopen : (opened o sink words.flatten).decoder =
      .ready ⟨0, words.flatten ++ []⟩ 0 ⟨.home, .blank o.maxWidth o.maxHeight⟩ := by
    rw [List.append_nil]
    exact opened_decoder o sink List.not_mem_nil escaped
  obtain ⟨s, hsteps, hs⟩ := steps_sentence o h rfl hopen
  rw [Nat.zero_add, Nat.zero_add] at hs
  have hend : (s.advance o).decoder = { s.decoder with phase := .halted .endOfStream } := by
    rw [advance_decoder, Decoder.advance_atEnd o (by rw [hs]; rfl)]
  have hreach : steps o (words.length + 0) (opened o sink words.flatten) = s.advance o := by
    rw [hsteps, steps_of_atEnd o (by rw [hs]; rfl) (by rw [hs]; rfl)]
  have hfinished : (s.advance o).decoder.isFinished = true := by
    rw [hend]
    rfl
  have hphase : (s.advance o).decoder.phase = .halted .endOfStream := by rw [hend]
  obtain ⟨hresult, hhalt⟩ := conclude_halted o hphase
  rw [← hreach] at hfinished
  rw [decodeWithSink_of_steps o sink hfinished, hreach]
  refine ⟨_, hresult, hhalt, ?_, ?_, ?_⟩
  · change (s.advance o).decoder.opcodes = words.length
    rw [hend, hs]
    rfl
  · change (s.advance o).decoder.position = words.flatten.length
    rw [hend, hs]
    rfl
  · change Sheet.mk (s.advance o).decoder.pen (s.advance o).decoder.surface = _
    rw [hend, hs]
    rfl

theorem conclude_failed {s : Session} {fault : Fault} (h : s.decoder.phase = .failed fault) :
    (s.conclude o).result = .error ⟨fault, s.finish.1⟩ ∧ s.finish.1.halt = .aborted fault.position := by
  rcases s with ⟨⟨phase, cursor, opcodes, pen, surface⟩, journal⟩
  cases h
  refine ⟨?_, rfl⟩
  exact congrArg (fun d => (.error ⟨fault, d⟩ : Except Failure Decoded))
    (finish_log _ journal (.aborted fault))

end Session
end LabelStream
