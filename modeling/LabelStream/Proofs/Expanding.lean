import LabelStream.Proofs.Runs

/-! What the expansion of a line takes off a capture and what it makes of that. Bytes come apart into
runs and the start of one more in a single way, so what was taken says everything about the line. -/
namespace LabelStream.RunLength

theorem Spelt.unique {word word' rest rest' : Octets} {run run' : Run} (h : Spelt word run)
    (h' : Spelt word' run') (hb : word ++ rest = word' ++ rest') :
    word = word' ∧ run = run' ∧ rest = rest' := by
  have hr := readRun_spelt h 0 rest
  rw [hb, readRun_spelt h'] at hr
  injection hr with hrun hcursor
  injection hcursor with _ hrest
  subst hrest
  exact ⟨List.append_cancel_right hb, hrun.symm, rfl⟩

theorem Spelt.not_begun {word rest arrived : Octets} {run : Run} (h : Spelt word run)
    (h' : Begun (word ++ rest) arrived) : False := by
  have hr := readRun_begun h' 0
  rw [readRun_spelt h] at hr
  cases hr

theorem Begun.unique {part arrived arrived' : Octets} (h : Begun part arrived)
    (h' : Begun part arrived') : arrived = arrived' := by
  have hr := readRun_begun h 0
  rw [readRun_begun h'] at hr
  cases hr
  rfl

theorem Spelt.length_le {word : Octets} {run : Run} (h : Spelt word run) : word.length ≤ 129 := by
  cases h with
  | literal small count =>
      have hc := UInt8.lt_iff_toNat_lt.mp small
      rw [List.length_cons, count]
      exact Nat.add_le_add_right (Nat.succ_le_of_lt hc) 1
  | repeated large value => exact Nat.le_of_ble_eq_true rfl

theorem Spelt.expand_le {word : Octets} {run : Run} (h : Spelt word run) :
    2 * run.expand.length ≤ 129 * word.length := by
  cases h with
  | literal small count =>
      simp only [Run.expand, List.length_cons]
      omega
  | @repeated control large value =>
      have hc : ¬ control.toNat < 128 := fun h => large (UInt8.lt_iff_toNat_lt.mpr h)
      simp only [Run.expand, List.length_replicate, List.length_cons, List.length_nil]
      omega

theorem Begun.arrived_le {part arrived : Octets} (h : Begun part arrived) :
    2 * arrived.length ≤ 129 * part.length := by
  cases h with
  | between => exact Nat.le_refl 0
  | literal small short =>
      rw [List.length_cons]
      omega
  | repeated large => exact Nat.zero_le _

/-- Whole runs, one after the other, and what there is of the next. -/
structure Split where
  words : List Octets
  runs : List Run
  part : Octets
  arrived : Octets
  spelt : List.Forall₂ Spelt words runs
  begun : Begun part arrived

namespace Split

def bytes (s : Split) : Octets := s.words.flatten ++ s.part

def output (s : Split) : Octets := s.runs.flatMap Run.expand ++ s.arrived

/-- Every run starts before `length` bytes, the one that is not whole included. -/
structure StartsBefore (length : Nat) (s : Split) : Prop where
  whole : ∀ before word after, s.words = before ++ word :: after → before.flatten.length < length
  begun : s.part ≠ [] → s.words.flatten.length < length

theorem ext_words {s other : Split} (words : s.words = other.words) (runs : s.runs = other.runs)
    (part : s.part = other.part) : s = other := by
  rcases s with ⟨words', runs', part', arrived, spelt, begun⟩
  rcases other with ⟨words'', runs'', part'', arrived', spelt', begun'⟩
  subst words runs part
  cases begun.unique begun'
  rfl

theorem words_unique {words words' : List Octets} {runs runs' : List Run} {part part' arrived : Octets}
    {arrived' : Octets} (spelt : List.Forall₂ Spelt words runs) (begun : Begun part arrived)
    (spelt' : List.Forall₂ Spelt words' runs') (begun' : Begun part' arrived')
    (hb : words.flatten ++ part = words'.flatten ++ part') :
    words = words' ∧ runs = runs' ∧ part = part' := by
  induction spelt generalizing words' runs' with
  | nil =>
      cases spelt' with
      | nil => exact ⟨rfl, rfl, hb⟩
      | cons hw hs =>
          change part = _ at hb
          rw [List.flatten_cons, List.append_assoc] at hb
          exact (hw.not_begun (hb ▸ begun)).elim
  | cons hw hs ih =>
      rw [List.flatten_cons, List.append_assoc] at hb
      cases spelt' with
      | nil =>
          change _ = part' at hb
          exact (hw.not_begun (hb ▸ begun')).elim
      | cons hw' hs' =>
          rw [List.flatten_cons, List.append_assoc] at hb
          -- Both first runs are read off the same bytes.
          obtain ⟨rfl, rfl, hrest⟩ := hw.unique hw' hb
          obtain ⟨rfl, rfl, rfl⟩ := ih hs' hrest
          exact ⟨rfl, rfl, rfl⟩

theorem bytes_injective : Function.Injective bytes := by
  intro s other hb
  obtain ⟨words, runs, part⟩ := words_unique s.spelt s.begun other.spelt other.begun hb
  exact ext_words words runs part

theorem runs_le {words : List Octets} {runs : List Run} (h : List.Forall₂ Spelt words runs) :
    2 * (runs.flatMap Run.expand).length ≤ 129 * words.flatten.length := by
  induction h with
  | nil => exact Nat.le_refl 0
  | cons hw hs ih =>
      have hle := hw.expand_le
      rw [List.flatMap_cons, List.flatten_cons, List.length_append, List.length_append]
      omega

theorem output_le (s : Split) : 2 * s.output.length ≤ 129 * s.bytes.length := by
  have hruns := runs_le s.spelt
  have hpart := s.begun.arrived_le
  rw [output, bytes, List.length_append, List.length_append]
  omega

end Split

theorem Fills.starts {length : Nat} {words before after : List Octets} {word : Octets}
    (h : Fills length words) (hw : words = before ++ word :: after) :
    before.flatten.length < length := by
  induction before generalizing length words with
  | nil =>
      subst hw
      exact h.1
  | cons first before ih =>
      subst hw
      have hrest := ih h.2 rfl
      rw [List.flatten_cons, List.length_append]
      omega

theorem Fills.eq_nil {words : List Octets} (h : Fills 0 words) : words = [] := by
  cases words with
  | nil => rfl
  | cons word words => exact absurd h.1 (Nat.lt_irrefl 0)

theorem Fills.flatten_le {length : Nat} {words : List Octets} {runs : List Run} (h : Fills length words)
    (spelt : List.Forall₂ Spelt words runs) :
    length ≤ words.flatten.length ∧ (0 < length → words.flatten.length ≤ length + 128) := by
  induction spelt generalizing length with
  | nil =>
      have hz : length = 0 := h
      subst hz
      exact ⟨Nat.le_refl 0, fun pos => absurd pos (Nat.lt_irrefl 0)⟩
  | @cons word run words runs hw hs ih =>
      obtain ⟨pos, rest⟩ := h
      obtain ⟨reached, near⟩ := ih rest
      have hle := hw.length_le
      rw [List.flatten_cons, List.length_append]
      refine ⟨by omega, fun _ => ?_⟩
      by_cases more : 0 < length - word.length
      · have hnear := near more
        omega
      · have hz : length - word.length = 0 := Nat.eq_zero_of_not_pos more
        rw [hz] at rest
        rw [rest.eq_nil, List.flatten_nil, List.length_nil]
        omega

namespace Split

theorem startsBefore_of_fills {length : Nat} {s : Split} (h : Fills length s.words)
    (whole : s.part = []) : s.StartsBefore length := by
  constructor
  · intro before word after hw
    exact h.starts hw
  · intro present
    exact absurd whole present

theorem startsBefore_of_lt {length : Nat} {s : Split} (h : s.words.flatten.length < length) :
    s.StartsBefore length := by
  constructor
  · intro before word after hw
    rw [hw, List.flatten_append, List.length_append] at h
    omega
  · intro _
    exact h

theorem bytes_of_whole {s : Split} (whole : s.part = []) : s.bytes = s.words.flatten := by
  rw [bytes, whole, List.append_nil]

theorem arrived_of_whole {s : Split} (whole : s.part = []) : s.arrived = [] :=
  (whole ▸ s.begun).unique .between

end Split

/-- The bytes that an expansion takes off a cursor are split into runs. If the runs do not fill the
length, the data has ended. -/
theorem expand_split (length : Nat) (c : Cursor) : ∃ (s : Split) (rest : Octets) (complete : Bool),
    c.rest = s.bytes ++ rest ∧ s.StartsBefore length ∧
    expand length c = ⟨s.runs, s.arrived, complete, ⟨c.position + s.bytes.length, rest⟩⟩ ∧
    (complete = true → s.part = [] ∧ Fills length s.words) ∧
    (complete = false → rest = [] ∧ s.words.flatten.length < length) := by
  rcases readRuns_cases (c.position + length) [] c with
    ⟨words, runs, rest, hc, hs, hf, he⟩ | ⟨words, runs, part, arrived, hc, hs, hlt, begun, he⟩
  · rw [Nat.add_sub_cancel_left] at hf
    let s : Split := ⟨words, runs, [], [], hs, .between⟩
    have hbytes : s.bytes = words.flatten := s.bytes_of_whole rfl
    refine ⟨s, rest, true, ?_, s.startsBefore_of_fills hf rfl, ?_, fun _ => ⟨rfl, hf⟩, nofun⟩
    · rw [hbytes]
      exact hc
    · rw [hbytes]
      exact he
  · rw [Nat.add_sub_cancel_left] at hlt
    let s : Split := ⟨words, runs, part, arrived, hs, begun⟩
    refine ⟨s, [], false, ?_, s.startsBefore_of_lt hlt, ?_, nofun, fun _ => ⟨rfl, hlt⟩⟩
    · rw [List.append_nil]
      exact hc
    · rw [Cursor.last, hc] at he
      exact he

theorem expand_output_le (length : Nat) (c : Cursor) :
    2 * (expand length c).output.length ≤ 129 * c.rest.length := by
  obtain ⟨s, rest, complete, hc, _, he, _⟩ := expand_split length c
  have hle := s.output_le
  rw [he, hc, List.length_append]
  change 2 * s.output.length ≤ _
  omega

theorem expandInto_of_split {length : Nat} {c : Cursor} {s : Split} {rest : Octets} {complete : Bool}
    (he : expand length c =
      ⟨s.runs, s.arrived, complete, ⟨c.position + s.bytes.length, rest⟩⟩) (buffer : Array UInt8) :
    expandInto length c buffer =
      ⟨s.output.toArray, s.bytes.length, complete, ⟨c.position + s.bytes.length, rest⟩⟩ := by
  rw [expandInto_eq, he]
  simp only [Nat.add_sub_cancel_left]
  rfl

theorem expandInto_fills {length : Nat} {s : Split} (whole : s.part = []) (fills : Fills length s.words)
    (p : Nat) (more : Octets) (buffer : Array UInt8) :
    expandInto length ⟨p, s.bytes ++ more⟩ buffer =
      ⟨s.output.toArray, s.bytes.length, true, ⟨p + s.bytes.length, more⟩⟩ := by
  apply expandInto_of_split
  rw [s.arrived_of_whole whole, s.bytes_of_whole whole]
  exact expand_words s.spelt fills p more

theorem expandInto_prefix (length : Nat) (c : Cursor) (more : Octets) (buffer other : Array UInt8) :
    (expandInto length c buffer).buffer.toList <+:
      (expandInto length ⟨c.position, c.rest ++ more⟩ other).buffer.toList := by
  rw [expandInto_eq, expandInto_eq]
  exact readRuns_output_prefix (c.position + length) [] c more

/-- Expanding reads runs and nothing else. What it takes off the cursor is split in one way into runs
that start before the wanted length, and the line is what they stand for. It is complete if they are
whole and reach the length, and then nothing behind them counts. Otherwise all the data was taken, and
with more of it the line would go on. -/
theorem expandInto_reads_runs (length : Nat) (c : Cursor) (buffer : Array UInt8) :
    let f := expandInto length c buffer
    let taken := c.rest.take f.consumed
    f.consumed ≤ c.rest.length ∧ f.after = ⟨c.position + f.consumed, c.rest.drop f.consumed⟩ ∧
    2 * f.buffer.size ≤ 129 * f.consumed ∧
    ∃ s : Split, s.bytes = taken ∧ (∀ other : Split, other.bytes = taken → other = s) ∧
      s.StartsBefore length ∧ f.buffer = s.output.toArray ∧
      (f.complete = true ↔ s.part = [] ∧ length ≤ f.consumed) ∧
      (f.complete = true →
        (length = 0 → f.consumed = 0) ∧
        (0 < length → length ≤ f.consumed ∧ f.consumed ≤ length + 128) ∧
        ∀ more other, expandInto length ⟨c.position, taken ++ more⟩ other =
          ⟨f.buffer, f.consumed, true, ⟨c.position + f.consumed, more⟩⟩) ∧
      (f.complete = false →
        f.consumed = c.rest.length ∧ (s.part ≠ [] ∨ f.consumed < length) ∧
        ∀ more other, f.buffer.toList <+:
          (expandInto length ⟨c.position, c.rest ++ more⟩ other).buffer.toList) := by
  intro f taken
  obtain ⟨s, rest, complete, hc, starts, he, filled, ended⟩ := expand_split length c
  have hf : f = ⟨s.output.toArray, s.bytes.length, complete, ⟨c.position + s.bytes.length, rest⟩⟩ :=
    expandInto_of_split he buffer
  have htaken : taken = s.bytes := by
    change c.rest.take f.consumed = s.bytes
    rw [hf, hc]
    exact List.take_left
  have size : s.bytes.length ≤ c.rest.length := by
    rw [hc, List.length_append]
    exact Nat.le_add_right _ _
  have hrest : c.rest.drop s.bytes.length = rest := by
    rw [hc]
    exact List.drop_left
  rw [htaken, hf]
  refine ⟨size, by rw [hrest], s.output_le, s, rfl, fun other ho => Split.bytes_injective ho, starts,
    rfl, ⟨?reaches, ?whole⟩, ?complete, ?incomplete⟩
  case reaches =>
    intro hcomplete
    obtain ⟨whole, fills⟩ := filled hcomplete
    refine ⟨whole, ?_⟩
    rw [s.bytes_of_whole whole]
    exact (fills.flatten_le s.spelt).1
  case whole =>
    rintro ⟨whole, reached⟩
    rw [s.bytes_of_whole whole] at reached
    by_contra hn
    have short := (ended (eq_false_of_ne_true hn)).2
    exact Nat.not_lt_of_le reached short
  case complete =>
    intro hcomplete
    obtain ⟨whole, fills⟩ := filled hcomplete
    obtain ⟨reached, near⟩ := fills.flatten_le s.spelt
    rw [← s.bytes_of_whole whole] at reached near
    refine ⟨?_, fun pos => ⟨reached, near pos⟩, fun more other => ?_⟩
    · rintro rfl
      rw [s.bytes_of_whole whole, fills.eq_nil]
      rfl
    · exact expandInto_fills whole fills c.position more other
  case incomplete =>
    intro hcomplete
    obtain ⟨hnil, short⟩ := ended hcomplete
    refine ⟨?_, ?_, ?_⟩
    · rw [hc, hnil, List.append_nil]
    · by_cases whole : s.part = []
      · rw [s.bytes_of_whole whole]
        exact .inr short
      · exact .inl whole
    · intro more other
      have h := expandInto_prefix length c more buffer other
      rw [expandInto_of_split he buffer] at h
      exact h

end LabelStream.RunLength
