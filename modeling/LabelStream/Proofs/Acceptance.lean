import LabelStream.Proofs.Sentences

/-! What a capture consists of. Every capture comes apart in one way into a preamble, complete
commands and an ending, and the ending decides how its decode ends. -/
namespace LabelStream

/-- What follows the last complete command. -/
inductive Ending where
  | clean
  /-- The start of a command, and no more. -/
  | cut
  | terminator
  /-- Bytes that no command starts with; the one to blame stands at `offset`. -/
  | refused (offset : Nat) (byte : UInt8) (kind : FaultKind)

inductive Ends (g : Grammar) : Octets → Ending → Prop
  | clean : Ends g [] .clean
  | cut {part more : Octets} {command : Command} (present : part ≠ []) (missing : more ≠ [])
      (spelt : Spells g (part ++ more) command) : Ends g part .cut
  | terminator (tail : Octets) : Ends g (0 :: tail) .terminator
  | refused {bytes : Octets} {offset : Nat} {byte : UInt8} {kind : FaultKind}
      (refusal : Refused g bytes offset byte kind) : Ends g bytes (.refused offset byte kind)

theorem Refused.append {g : Grammar} {bytes : Octets} {offset : Nat} {byte : UInt8} {kind : FaultKind}
    (h : Refused g bytes offset byte kind) (more : Octets) :
    Refused g (bytes ++ more) offset byte kind := by
  cases h with
  | opcode tail zero unknown => exact .opcode (tail ++ more) zero unknown
  | escape tail unknown => exact .escape (tail ++ more) unknown
  | graphics tail other strict => exact .graphics (tail ++ more) other strict

/-- The start of a command is neither a command nor the start of anything else. -/
theorem Grammar.read_start {g : Grammar} {part more : Octets} {command : Command}
    (present : part ≠ []) (missing : more ≠ []) (spelt : Spells g (part ++ more) command) (p : Nat) :
    ∃ fragment, g.read ⟨p, part⟩ = .cut fragment ⟨p + part.length, []⟩ := by
  have hr := read_spells spelt p []
  rw [List.append_nil] at hr
  cases g.standing ⟨p, part⟩ with
  | nothing hb => exact absurd hb present
  | whole word command' rest hb hw =>
      change part = word ++ rest at hb
      rw [hb, List.append_assoc, read_spells hw] at hr
      injection hr with _ hc
      have hl := congrArg Cursor.position hc
      have hm := List.length_pos_iff.mpr missing
      simp only [List.length_append] at hl
      omega
  | cut fragment more' command' _ _ reading => exact ⟨fragment, reading⟩
  | terminator rest hb =>
      change part = 0 :: rest at hb
      rw [hb, List.cons_append, read_terminator] at hr
      cases hr
  | refused offset byte kind refusal =>
      rw [read_refused (refusal.append more)] at hr
      cases hr

def Ending.Reads (p : Nat) : Ending → Reading → Prop
  | clean, r => r = .nothing
  | cut, r => ∃ fragment after, r = .cut fragment after
  | terminator, r => ∃ after, r = .terminator after
  | refused offset byte kind, r => ∃ after, r = .fault ⟨p + offset, some byte, kind⟩ after

theorem Ends.reads {g : Grammar} {bytes : Octets} {ending : Ending} (h : Ends g bytes ending) (p : Nat) :
    ending.Reads p (g.read ⟨p, bytes⟩) := by
  cases h with
  | clean => rfl
  | cut present missing spelt =>
      obtain ⟨fragment, hr⟩ := Grammar.read_start present missing spelt p
      exact ⟨fragment, _, hr⟩
  | terminator tail => exact ⟨_, rfl⟩
  | refused refusal => exact ⟨_, Grammar.read_refused refusal p⟩

theorem Ending.Reads.not_whole {p : Nat} {ending : Ending} {command : Command} {after : Cursor}
    (h : ending.Reads p (.whole command after)) : False := by
  cases ending with
  | clean => cases h
  | cut => obtain ⟨fragment, last, h⟩ := h; cases h
  | terminator => obtain ⟨last, h⟩ := h; cases h
  | refused offset byte kind => obtain ⟨last, h⟩ := h; cases h

theorem Ending.Reads.unique {p : Nat} {ending other : Ending} {r : Reading} (h : ending.Reads p r)
    (h' : other.Reads p r) : ending = other := by
  cases ending <;> cases other <;> simp only [Ending.Reads] at h h' <;> grind

/-- The words and the ending of some bytes are all determined by them. -/
theorem Sentence.unique {lenient mode last last' : Bool} {words words' : List Octets}
    {commands commands' : List Command} {tail tail' : Octets} {ending ending' : Ending}
    (h : Sentence lenient mode words commands last) (he : Ends ⟨last, lenient⟩ tail ending)
    (h' : Sentence lenient mode words' commands' last') (he' : Ends ⟨last', lenient⟩ tail' ending')
    (hb : words.flatten ++ tail = words'.flatten ++ tail') : words = words' ∧ ending = ending' := by
  induction h generalizing words' commands' with
  | nil mode =>
      cases h' with
      | nil _ =>
          change tail = tail' at hb
          subst hb
          exact ⟨rfl, (he.reads 0).unique (he'.reads 0)⟩
      | @cons _ _ word command words commands spelt rest =>
          have hr := he.reads 0
          change tail = _ at hb
          rw [hb, List.flatten_cons, List.append_assoc, Grammar.read_spells spelt] at hr
          exact hr.not_whole.elim
  | @cons mode last word command words commands spelt rest ih =>
      rw [List.flatten_cons, List.append_assoc] at hb
      have hr := Grammar.read_spells spelt 0 (words.flatten ++ tail)
      cases h' with
      | nil _ =>
          have hr' := he'.reads 0
          change word ++ _ = tail' at hb
          rw [← hb, hr] at hr'
          exact hr'.not_whole.elim
      | @cons _ _ word' command' words' commands' spelt' rest' =>
          rw [List.flatten_cons, List.append_assoc] at hb
          -- Both first words are read off the same bytes, so they are one.
          rw [hb, Grammar.read_spells spelt'] at hr
          injection hr with hcommand hcursor
          have hl : word'.length = word.length := by simpa using congrArg Cursor.position hcursor
          obtain ⟨rfl, hrest⟩ := List.append_inj hb hl.symm
          subst hcommand
          obtain ⟨rfl, hending⟩ := ih he rest' hrest
          exact ⟨rfl, hending⟩

theorem exists_sentence (lenient mode : Bool) (bytes : Octets) :
    ∃ words commands last tail ending, bytes = words.flatten ++ tail ∧
      Sentence lenient mode words commands last ∧ Ends ⟨last, lenient⟩ tail ending := by
  -- A command has at least one byte, so what follows it is shorter.
  induction hn : bytes.length using Nat.strongRecOn generalizing mode bytes with
  | ind n ih =>
      cases Grammar.standing ⟨mode, lenient⟩ ⟨0, bytes⟩ with
      | nothing hb =>
          change bytes = [] at hb
          exact ⟨[], [], mode, bytes, .clean, rfl, .nil mode, hb ▸ .clean⟩
      | whole word command rest hb spelt =>
          change bytes = word ++ rest at hb
          have hpos := List.length_pos_iff.mpr spelt.ne_nil
          have hlt : rest.length < n := by
            rw [← hn, hb, List.length_append]
            omega
          obtain ⟨words, commands, last, tail, ending, hr, hs, he⟩ :=
            ih rest.length hlt (command.modeAfter mode) rest rfl
          refine ⟨word :: words, command :: commands, last, tail, ending, ?_, .cons spelt hs, he⟩
          rw [hb, List.flatten_cons, List.append_assoc, ← hr]
      | cut fragment more command missing spelt reading =>
          by_cases present : bytes = []
          · exact ⟨[], [], mode, bytes, .clean, rfl, .nil mode, present ▸ .clean⟩
          · exact ⟨[], [], mode, bytes, .cut, rfl, .nil mode, .cut present missing spelt⟩
      | terminator rest hb =>
          change bytes = 0 :: rest at hb
          exact ⟨[], [], mode, bytes, .terminator, rfl, .nil mode, hb ▸ .terminator rest⟩
      | refused offset byte kind refusal =>
          exact ⟨[], [], mode, bytes, .refused offset byte kind, rfl, .nil mode, .refused refusal⟩

def Ending.phase (p : Nat) : Ending → Phase
  | clean => .halted .endOfStream
  | cut => .halted (.truncated p)
  | terminator => .halted (.nullTerminator p)
  | refused offset byte kind => .failed ⟨p + offset, some byte, kind⟩

theorem Decoder.advance_ends {o : Options} {tail : Octets} {ending : Ending} {s : Sheet}
    (h : Ends ⟨s.pen.compression, o.acceptAnyGraphicsMode⟩ tail ending) (p n : Nat) :
    ((ready ⟨p, tail⟩ n s).advance o).1.phase = ending.phase p := by
  have hr := h.reads p
  rw [← reading_ready o ⟨p, tail⟩ n s] at hr
  cases ending with
  | clean =>
      change _ = Reading.nothing at hr
      simp only [advance, hr]
      rfl
  | cut =>
      obtain ⟨fragment, after, hr⟩ := hr
      simp only [advance, hr]
      cases fragment <;> rfl
  | terminator =>
      obtain ⟨after, hr⟩ := hr
      simp only [advance, hr]
      rfl
  | refused offset byte kind =>
      obtain ⟨after, hr⟩ := hr
      simp only [advance, hr]
      rfl

theorem Ending.phase_finished {d : Decoder} {p : Nat} {ending : Ending} (h : d.phase = ending.phase p) :
    d.isFinished = true := by
  cases ending <;> simp only [Decoder.isFinished, h, phase]

structure Parse where
  preamble : Octets
  words : List Octets
  ending : Ending

namespace Parse

/-- The capture is the preamble up to the first escape, complete commands, and the ending. -/
def Of (parse : Parse) (o : Options) (capture : Octets) : Prop :=
  ∃ rest tail commands last, capture = parse.preamble ++ rest ∧ escapeByte ∉ parse.preamble ∧
    (rest = [] ∨ ∃ more, rest = escapeByte :: more) ∧ rest = parse.words.flatten ++ tail ∧
    Sentence o.acceptAnyGraphicsMode false parse.words commands last ∧
    Ends ⟨last, o.acceptAnyGraphicsMode⟩ tail parse.ending

/-- Where the last complete command ends. -/
def behind (parse : Parse) : Nat := parse.preamble.length + parse.words.flatten.length

/-- The result of a decode is what the ending asks for. -/
def Answered (parse : Parse) (result : Except Failure Decoded) : Prop :=
  match parse.ending with
  | .clean => ∃ d, result = .ok d ∧ d.halt = .endOfStream
  | .cut => ∃ d, result = .ok d ∧ d.halt = .truncated parse.behind
  | .terminator => ∃ d, result = .ok d ∧ d.halt = .nullTerminator parse.behind
  | .refused offset byte kind =>
    ∃ d, result = .error ⟨⟨parse.behind + offset, some byte, kind⟩, d⟩ ∧
      d.halt = .aborted (parse.behind + offset)

theorem exists_of (o : Options) (capture : Octets) : ∃ parse : Parse, parse.Of o capture := by
  obtain ⟨words, commands, last, tail, ending, hb, hs, he⟩ :=
    exists_sentence o.acceptAnyGraphicsMode false (capture.dropWhile (· != escapeByte))
  refine ⟨⟨capture.takeWhile (· != escapeByte), words, ending⟩, _, tail, commands, last,
    List.takeWhile_append_dropWhile.symm, ?_, ?_, hb, hs, he⟩
  · intro hmem
    have hall : (capture.takeWhile (· != escapeByte)).all (· != escapeByte) = true :=
      List.all_takeWhile
    exact bne_iff_ne.mp (List.all_eq_true.mp hall escapeByte hmem) rfl
  · cases hd : capture.dropWhile (· != escapeByte) with
    | nil => exact .inl rfl
    | cons b more =>
        have hn : capture.dropWhile (· != escapeByte) ≠ [] := hd ▸ List.cons_ne_nil b more
        have hb := List.head_dropWhile_not (· != escapeByte) hn
        simp only [hd, List.head_cons, bne_eq_false_iff_eq] at hb
        exact .inr ⟨more, by rw [hb]⟩

theorem Of.unique {o : Options} {capture : Octets} {parse other : Parse} (h : parse.Of o capture)
    (h' : other.Of o capture) : other = parse := by
  obtain ⟨rest, tail, commands, last, hc, hp, hr, hb, hs, he⟩ := h
  obtain ⟨rest', tail', commands', last', hc', hp', hr', hb', hs', he'⟩ := h'
  have hpre : other.preamble = parse.preamble := by
    rw [← Session.takeWhile_preamble hp hr, ← Session.takeWhile_preamble hp' hr', ← hc, ← hc']
  have hrest : rest = rest' := by
    rw [hc, hpre] at hc'
    exact List.append_cancel_left hc'
  rw [hb, hb'] at hrest
  obtain ⟨hw, hending⟩ := hs.unique he hs' he' hrest
  cases parse
  cases other
  simp only [mk.injEq]
  exact ⟨hpre, hw.symm, hending.symm⟩

theorem Of.phase {o : Options} {capture : Octets} {parse : Parse} (h : parse.Of o capture)
    (sink : Sink) :
    (Session.steps o (parse.words.length + 1) (Session.opened o sink capture)).decoder.phase =
      parse.ending.phase parse.behind := by
  obtain ⟨rest, tail, commands, last, hc, hp, hr, hb, hs, he⟩ := h
  have hopen := Session.opened_decoder o sink hp hr
  rw [← hc, hb] at hopen
  obtain ⟨s, hsteps, hd⟩ := Session.steps_sentence o hs rfl hopen
  have hlast := hs.compression o (s := ⟨.home, .blank o.maxWidth o.maxHeight⟩) rfl
  rw [← hlast] at he
  have ha := Decoder.advance_ends he (parse.preamble.length + parse.words.flatten.length)
    (0 + parse.words.length)
  rw [← hd, ← Session.advance_decoder] at ha
  have hf : s.decoder.isFinished = false := by
    rw [hd]
    rfl
  rw [hsteps, Session.steps_succ o hf, Session.steps_of_finished o (Ending.phase_finished ha), ha]
  rfl

theorem Of.answered {o : Options} {capture : Octets} {parse : Parse} (h : parse.Of o capture)
    (sink : Sink) : parse.Answered (decodeWithSink o sink capture).result := by
  have hphase := h.phase sink
  rw [Session.decodeWithSink_of_steps o sink (Ending.phase_finished hphase)]
  unfold Answered
  cases hending : parse.ending with
  | clean =>
      rw [hending] at hphase
      exact ⟨_, Session.conclude_halted o hphase⟩
  | cut =>
      rw [hending] at hphase
      exact ⟨_, Session.conclude_halted o hphase⟩
  | terminator =>
      rw [hending] at hphase
      exact ⟨_, Session.conclude_halted o hphase⟩
  | refused offset byte kind =>
      rw [hending] at hphase
      exact ⟨_, Session.conclude_failed o hphase⟩

end Parse

/-- The decoder takes the language of complete commands, and tells how a capture leaves it. -/
theorem decode_follows_grammar (o : Options) (capture : Octets) :
    ∃ parse : Parse, parse.Of o capture ∧ (∀ other : Parse, other.Of o capture → other = parse) ∧
      parse.Answered (decode o capture).result := by
  obtain ⟨parse, h⟩ := Parse.exists_of o capture
  exact ⟨parse, h, fun other h' => h.unique h', h.answered _⟩

end LabelStream
