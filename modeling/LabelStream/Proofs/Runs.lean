import LabelStream.RunLength
import Mathlib.Data.List.Forall2

/-! The run-length code as a language. A run is a byte string, a payload is a sequence of them of
which only the last one reaches the wanted length, and the reader takes exactly such sequences. -/
namespace LabelStream

namespace Cursor

def last (c : Cursor) : Cursor := ⟨c.position + c.rest.length, []⟩

theorem take_word (p : Nat) (word rest : Octets) :
    take word.length ⟨p, word ++ rest⟩ = (word, ⟨p + word.length, rest⟩) := by
  simp only [take, List.take_left, List.drop_left]

theorem take_of_short {n : Nat} {c : Cursor} (h : c.rest.length ≤ n) : c.take n = (c.rest, c.last) := by
  simp only [take, last, List.take_of_length_le h, List.drop_of_length_le h]

/-- What a cursor takes is all it was asked for, or all there is. -/
theorem take_cases (n : Nat) (c : Cursor) :
    (∃ word rest, c.rest = word ++ rest ∧ word.length = n ∧
      c.take n = (word, ⟨c.position + word.length, rest⟩)) ∨
    (c.rest.length < n ∧ c.take n = (c.rest, c.last)) := by
  by_cases h : c.rest.length < n
  · exact .inr ⟨h, take_of_short (Nat.le_of_lt h)⟩
  · have hl : (c.rest.take n).length = n := by
      rw [List.length_take]
      omega
    refine .inl ⟨c.rest.take n, c.rest.drop n, (List.take_append_drop n c.rest).symm, hl, ?_⟩
    simp only [take]

end Cursor

/-- Bytes that are too few can be made up to any number. -/
theorem exists_missing {bytes : Octets} {n : Nat} (h : bytes.length < n) :
    ∃ more, more ≠ [] ∧ (bytes ++ more).length = n := by
  refine ⟨List.replicate (n - bytes.length) 0, ?_, ?_⟩
  · exact List.ne_nil_of_length_pos (by rw [List.length_replicate]; omega)
  · rw [List.length_append, List.length_replicate]
    omega

namespace RunLength

/-- The bytes of a whole run, control byte first. -/
inductive Spelt : Octets → Run → Prop
  | literal {control : UInt8} {octets : Octets} (small : control < 128)
      (count : octets.length = control.toNat + 1) : Spelt (control :: octets) (.literal octets)
  | repeated {control : UInt8} (large : ¬ control < 128) (value : UInt8) :
      Spelt [control, value] (.repeated (257 - control.toNat) value)

theorem Spelt.ne_nil {word : Octets} {run : Run} (h : Spelt word run) : word ≠ [] := by
  cases h <;> exact List.cons_ne_nil _ _

theorem words_ne_nil {words : List Octets} {runs : List Run} (h : List.Forall₂ Spelt words runs) :
    ∀ word ∈ words, word ≠ [] := by
  induction h with
  | nil => exact fun _ hw => absurd hw List.not_mem_nil
  | @cons word run words runs hw hs ih =>
      intro w hmem
      rcases List.mem_cons.mp hmem with rfl | hmem
      · exact hw.ne_nil
      · exact ih w hmem

theorem readRun_spelt {word : Octets} {run : Run} (h : Spelt word run) (p : Nat) (rest : Octets) :
    readRun ⟨p, word ++ rest⟩ = .whole run ⟨p + word.length, rest⟩ := by
  cases h with
  | @literal control octets small count =>
      have ht := Cursor.take_word (p + 1) octets rest
      rw [count] at ht
      simp only [List.cons_append, readRun, Cursor.next, if_pos small, readLiterals, ht, count, if_true]
      congr 2
      simp only [List.length_cons, count]
      omega
  | repeated large value =>
      simp only [List.cons_append, List.nil_append, readRun, Cursor.next, if_neg large]
      rfl

/-- The start of a run, not all of it, and the literals that it holds. Between two runs there is none. -/
inductive Begun : Octets → Octets → Prop
  | between : Begun [] []
  | literal {control : UInt8} {octets : Octets} (small : control < 128)
      (short : octets.length ≤ control.toNat) : Begun (control :: octets) octets
  | repeated {control : UInt8} (large : ¬ control < 128) : Begun [control] []

/-- A longer capture has the whole run. -/
theorem Begun.completed {part arrived : Octets} (h : Begun part arrived) :
    ∃ more run, more ≠ [] ∧ Spelt (part ++ more) run := by
  cases h with
  | between => exact ⟨[0, 0], _, List.cons_ne_nil _ _, .literal (by decide) rfl⟩
  | literal small short =>
      obtain ⟨more, hm, hc⟩ := exists_missing (Nat.lt_succ_of_le short)
      exact ⟨more, _, hm, .literal small hc⟩
  | repeated large => exact ⟨[0], _, List.cons_ne_nil _ _, .repeated large 0⟩

theorem readRun_begun {part arrived : Octets} (h : Begun part arrived) (p : Nat) :
    readRun ⟨p, part⟩ = .cut arrived (Cursor.last ⟨p, part⟩) := by
  cases h with
  | between => rfl
  | literal small short =>
      have ht := Cursor.take_of_short (c := ⟨p + 1, arrived⟩) (Nat.le_succ_of_le short)
      simp only [readRun, Cursor.next, if_pos small, readLiterals, ht,
        if_neg (Nat.ne_of_lt (Nat.lt_succ_of_le short)), Cursor.last, List.length_cons]
      congr 2
      omega
  | repeated large =>
      simp only [readRun, Cursor.next, if_neg large]
      rfl

/-- A run is read whole, or the data ends inside it. -/
theorem readRun_cases (c : Cursor) :
    (∃ word run rest, c.rest = word ++ rest ∧ Spelt word run ∧
      readRun c = .whole run ⟨c.position + word.length, rest⟩) ∨
    (∃ arrived, Begun c.rest arrived ∧ readRun c = .cut arrived c.last) := by
  rcases c with ⟨p, _ | ⟨control, bytes⟩⟩
  · exact .inr ⟨[], .between, readRun_begun .between p⟩
  by_cases small : control < 128
  · by_cases short : bytes.length ≤ control.toNat
    · exact .inr ⟨bytes, .literal small short, readRun_begun (.literal small short) p⟩
    · have count : (bytes.take (control.toNat + 1)).length = control.toNat + 1 := by
        rw [List.length_take]
        omega
      have hb := List.take_append_drop (control.toNat + 1) bytes
      have hr := readRun_spelt (.literal small count) p (bytes.drop (control.toNat + 1))
      rw [List.cons_append, hb] at hr
      exact .inl ⟨_, _, _, congrArg (control :: ·) hb.symm, .literal small count, hr⟩
  · rcases bytes with _ | ⟨value, rest⟩
    · exact .inr ⟨[], .repeated small, readRun_begun (.repeated small) p⟩
    · exact .inl ⟨[control, value], _, rest, rfl, .repeated small value,
        readRun_spelt (.repeated small value) p rest⟩

/-- Every word starts before `length` bytes, and the last one reaches them. -/
def Fills : Nat → List Octets → Prop
  | length, [] => length = 0
  | length, word :: words => 0 < length ∧ Fills (length - word.length) words

theorem fills_flatten {words : List Octets} (h : ∀ word ∈ words, word ≠ []) :
    Fills words.flatten.length words := by
  induction words with
  | nil => rfl
  | cons word words ih =>
      have hw := List.length_pos_iff.mpr (h word List.mem_cons_self)
      have ih := ih fun w hw => h w (List.mem_cons_of_mem word hw)
      simp only [Fills, List.flatten_cons, List.length_append, Nat.add_sub_cancel_left]
      exact ⟨Nat.lt_of_lt_of_le hw (Nat.le_add_right _ _), ih⟩

theorem Fills.prepend {length : Nat} {words more : List Octets} (hw : words.flatten.length < length)
    (h : Fills (length - words.flatten.length) more) : Fills length (words ++ more) := by
  induction words generalizing length with
  | nil => exact h
  | cons word words ih =>
      simp only [List.flatten_cons, List.length_append] at hw h
      refine ⟨Nat.zero_lt_of_lt hw, ih (by omega) ?_⟩
      rwa [Nat.sub_sub]

/-- Any length can be filled. -/
theorem exists_filling (length : Nat) :
    ∃ words runs, List.Forall₂ Spelt words runs ∧ Fills length words := by
  induction length using Nat.strongRecOn with
  | ind length ih =>
      by_cases hz : length = 0
      · exact ⟨[], [], .nil, hz⟩
      · obtain ⟨words, runs, hs, hf⟩ := ih (length - 2) (by omega)
        have hw : Spelt [0, 0] (.literal [0]) := .literal (by decide) rfl
        exact ⟨[0, 0] :: words, _ :: runs, .cons hw hs, Nat.pos_of_ne_zero hz, hf⟩

/-- What `Fills` says about lengths alone. -/
theorem fills_iff {length : Nat} {words : List Octets} (h : ∀ word ∈ words, word ≠ []) :
    Fills length words ↔ length ≤ words.flatten.length ∧
      ∀ before word, words = before ++ [word] → before.flatten.length < length := by
  induction words generalizing length with
  | nil =>
      simp only [Fills, List.flatten_nil, List.length_nil, Nat.le_zero_eq]
      exact ⟨fun h => ⟨h, fun before word hb => by simp at hb⟩, And.left⟩
  | cons word words ih =>
      rw [Fills, ih fun w hw => h w (List.mem_cons_of_mem word hw)]
      simp only [List.flatten_cons, List.length_append]
      constructor
      · rintro ⟨hpos, hlen, hlast⟩
        refine ⟨by omega, ?_⟩
        intro before final hb
        rcases before with _ | ⟨first, before⟩
        · exact hpos
        · obtain ⟨rfl, hw⟩ := List.cons.inj hb
          have := hlast before final hw
          simp only [List.flatten_cons, List.length_append]
          omega
      · rintro ⟨hlen, hlast⟩
        have hshort : ∀ before final, words = before ++ [final] →
            word.length + before.flatten.length < length := by
          intro before final hb
          simpa using hlast (word :: before) final (congrArg (word :: ·) hb)
        have hpos : 0 < length := by
          rcases List.eq_nil_or_concat words with rfl | ⟨before, final, rfl⟩
          · exact hlast [] word rfl
          · exact Nat.zero_lt_of_lt (hshort before final (by simp))
        exact ⟨hpos, by omega, fun before final hb => by have := hshort before final hb; omega⟩

theorem readRuns_stop {stop : Nat} {c : Cursor} (h : ¬ c.position < stop) (seen : List Run) :
    readRuns stop seen c = ⟨seen.reverse, [], true, c⟩ := by rw [readRuns, if_neg h]

theorem readRuns_whole {stop : Nat} {c after : Cursor} {run : Run} (h : c.position < stop)
    (hr : readRun c = .whole run after) (seen : List Run) :
    readRuns stop seen c = readRuns stop (run :: seen) after := by
  rw [readRuns, if_pos h]
  split
  next hw => rw [hr] at hw; cases hw; rfl
  next hw => rw [hr] at hw; cases hw

theorem readRuns_words {words : List Octets} {runs : List Run} (hs : List.Forall₂ Spelt words runs)
    {p stop : Nat} (hf : Fills (stop - p) words) (seen : List Run) (rest : Octets) :
    readRuns stop seen ⟨p, words.flatten ++ rest⟩ =
      ⟨seen.reverse ++ runs, [], true, ⟨p + words.flatten.length, rest⟩⟩ := by
  induction hs generalizing p seen with
  | nil =>
      have hp : ¬ p < stop := by
        change stop - p = 0 at hf
        omega
      rw [readRuns_stop hp, List.append_nil]
      rfl
  | @cons word run words runs hw hs ih =>
      obtain ⟨hpos, hf⟩ := hf
      rw [Nat.sub_sub] at hf
      rw [List.flatten_cons, List.append_assoc,
        readRuns_whole (by dsimp only; omega) (readRun_spelt hw p _), ih hf, List.reverse_cons,
        List.append_assoc, List.length_append, Nat.add_assoc]
      rfl

/-- Reading runs ends at the wanted length, or the data ends before it or inside a run. -/
theorem readRuns_cases (stop : Nat) (seen : List Run) (c : Cursor) :
    (∃ words runs rest, c.rest = words.flatten ++ rest ∧ List.Forall₂ Spelt words runs ∧
      Fills (stop - c.position) words ∧
      readRuns stop seen c =
        ⟨seen.reverse ++ runs, [], true, ⟨c.position + words.flatten.length, rest⟩⟩) ∨
    (∃ words runs part arrived, c.rest = words.flatten ++ part ∧ List.Forall₂ Spelt words runs ∧
      words.flatten.length < stop - c.position ∧ Begun part arrived ∧
      readRuns stop seen c = ⟨seen.reverse ++ runs, arrived, false, c.last⟩) := by
  fun_induction readRuns stop seen c with
  | case1 seen c hp run after hr ih =>
      -- The run that was read goes in front of what the rest comes to, in both cases.
      rcases readRun_cases c with ⟨word, run', rest, hc, hw, hr'⟩ | ⟨arrived, _, hr'⟩
      case inr => rw [hr] at hr'; cases hr'
      rw [hr] at hr'
      cases hr'
      rcases ih with
        ⟨words, runs, left, hl, hs, hf, hrun⟩ | ⟨words, runs, part, arrived, hl, hs, hf, ha, hrun⟩
      · refine .inl ⟨word :: words, run :: runs, left, ?_, .cons hw hs, ⟨Nat.sub_pos_of_lt hp, ?_⟩, ?_⟩
        · rw [hc, List.flatten_cons, List.append_assoc]
          exact congrArg (word ++ ·) hl
        · rw [Nat.sub_sub]
          exact hf
        · rw [hrun, List.reverse_cons, List.append_assoc, List.flatten_cons, List.length_append,
            Nat.add_assoc]
          rfl
      · refine .inr ⟨word :: words, run :: runs, part, arrived, ?_, .cons hw hs, ?_, ha, ?_⟩
        · rw [hc, List.flatten_cons, List.append_assoc]
          exact congrArg (word ++ ·) hl
        · rw [List.flatten_cons, List.length_append]
          dsimp only at hf
          omega
        · rw [hrun, List.reverse_cons, List.append_assoc]
          simp only [Cursor.last, hc, List.length_append, Nat.add_assoc]
          rfl
  | case2 seen c hp arrived after hr =>
      rcases readRun_cases c with ⟨word, run, rest, _, _, hr'⟩ | ⟨arrived', ha, hr'⟩
      case inl => rw [hr] at hr'; cases hr'
      rw [hr] at hr'
      cases hr'
      refine .inr ⟨[], [], c.rest, arrived, rfl, .nil, Nat.sub_pos_of_lt hp, ha, ?_⟩
      rw [List.append_nil]
  | case3 seen c hp =>
      refine .inl ⟨[], [], c.rest, rfl, .nil, Nat.sub_eq_zero_of_le (Nat.le_of_not_lt hp), ?_⟩
      rw [List.append_nil]
      rfl

theorem readRuns_cut {stop : Nat} {c after : Cursor} {arrived : Octets} (h : c.position < stop)
    (hr : readRun c = .cut arrived after) (seen : List Run) :
    readRuns stop seen c = ⟨seen.reverse, arrived, false, after⟩ := by
  rw [readRuns, if_pos h]
  split
  next hw => rw [hr] at hw; cases hw
  next hw => rw [hr] at hw; cases hw; rfl

def RunReading.output : RunReading → Octets
  | whole run _ => run.expand
  | cut arrived _ => arrived

theorem readLiterals_output (control : UInt8) (c : Cursor) :
    (readLiterals control c).output = c.rest.take (control.toNat + 1) := by
  dsimp only [readLiterals]
  split <;> rfl

/-- A run whose end is missing gives the start of what it gives when more data follows. -/
theorem readRun_output_prefix (p : Nat) (bytes more : Octets) :
    (readRun ⟨p, bytes⟩).output <+: (readRun ⟨p, bytes ++ more⟩).output := by
  rcases bytes with _ | ⟨control, bytes⟩
  · exact List.nil_prefix
  by_cases small : control < 128
  · simp only [List.cons_append, readRun, Cursor.next, if_pos small, readLiterals_output]
    rw [List.take_append]
    exact List.prefix_append _ _
  · rcases bytes with _ | ⟨value, bytes⟩
    · simp only [readRun, Cursor.next, if_neg small]
      exact List.nil_prefix
    · simp only [List.cons_append, readRun, Cursor.next, if_neg small]
      exact List.prefix_rfl

theorem readRuns_seen_prefix (stop : Nat) (seen : List Run) (c : Cursor) :
    seen.reverse.flatMap Run.expand <+: (readRuns stop seen c).output := by
  fun_induction readRuns stop seen c with
  | case1 seen c hp run after hr ih =>
      rw [List.reverse_cons, List.flatMap_append] at ih
      exact (List.prefix_append _ _).trans ih
  | case2 seen c hp arrived after hr => exact List.prefix_append _ _
  | case3 seen c hp => exact List.prefix_append _ _

theorem readRuns_begins {stop : Nat} {c : Cursor} (h : c.position < stop) (seen : List Run) :
    seen.reverse.flatMap Run.expand ++ (readRun c).output <+: (readRuns stop seen c).output := by
  cases hr : readRun c with
  | whole run after =>
      have hs := readRuns_seen_prefix stop (run :: seen) after
      rw [List.reverse_cons, List.flatMap_append, List.flatMap_singleton] at hs
      rw [readRuns_whole h hr]
      exact hs
  | cut arrived after =>
      rw [readRuns_cut h hr]
      exact List.prefix_rfl

/-- A line whose end is missing is the start of the line that it is when more data follows. -/
theorem readRuns_output_prefix (stop : Nat) (seen : List Run) (c : Cursor) (more : Octets) :
    (readRuns stop seen c).output <+: (readRuns stop seen ⟨c.position, c.rest ++ more⟩).output := by
  fun_induction readRuns stop seen c with
  | case1 seen c hp run after hr ih =>
      rcases readRun_cases c with ⟨word, run', rest, hc, hw, hr'⟩ | ⟨arrived, _, hr'⟩
      case inr => rw [hr] at hr'; cases hr'
      rw [hr] at hr'
      cases hr'
      have hlong := readRun_spelt hw c.position (rest ++ more)
      rw [hc, List.append_assoc, readRuns_whole (by exact hp) hlong]
      exact ih
  | case2 seen c hp arrived after hr =>
      have hrun := readRun_output_prefix c.position c.rest more
      change (readRun c).output <+: _ at hrun
      rw [hr] at hrun
      have hfirst := @readRuns_begins stop ⟨c.position, c.rest ++ more⟩ hp seen
      exact ((List.prefix_append_right_inj _).mpr hrun).trans hfirst
  | case3 seen c hp =>
      rw [@readRuns_stop stop ⟨c.position, c.rest ++ more⟩ hp]
      exact List.prefix_rfl

theorem expand_words {words : List Octets} {runs : List Run} {length : Nat}
    (hs : List.Forall₂ Spelt words runs) (hf : Fills length words) (p : Nat) (rest : Octets) :
    expand length ⟨p, words.flatten ++ rest⟩ =
      ⟨runs, [], true, ⟨p + words.flatten.length, rest⟩⟩ := by
  refine readRuns_words hs ?_ [] rest
  rwa [Nat.add_sub_cancel_left]

theorem literalPart_prefix (n : Nat) (data : Octets) : literalPart n data <+: data := by
  fun_induction literalPart n data with
  | case1 data => exact List.nil_prefix
  | case2 n => exact List.nil_prefix
  | case3 n v => exact List.prefix_rfl
  | case4 n v rest => exact List.nil_prefix
  | case5 n v w rest _ ih => exact List.cons_prefix_cons.mpr ⟨rfl, ih⟩

theorem literalPart_length_le (n : Nat) (data : Octets) : (literalPart n data).length ≤ n := by
  fun_induction literalPart n data with
  | case1 data => exact Nat.zero_le _
  | case2 n => exact Nat.zero_le _
  | case3 n v => exact Nat.succ_le_succ (Nat.zero_le _)
  | case4 n v rest => exact Nat.zero_le _
  | case5 n v w rest _ ih => exact Nat.succ_le_succ ih

theorem encode_literal_spelt {octets : Octets} (hpos : 0 < octets.length)
    (hle : octets.length ≤ longestLiteral) : Spelt (Run.literal octets).encode (.literal octets) := by
  have hle : octets.length ≤ 128 := hle
  have hc : (UInt8.ofNat (octets.length - 1)).toNat = octets.length - 1 := by
    rw [UInt8.toNat_ofNat']
    omega
  refine .literal ?_ ?_
  · rw [UInt8.lt_iff_toNat_lt, hc]
    change octets.length - 1 < 128
    omega
  · rw [hc]
    omega

theorem encode_repeated_spelt {count : Nat} (hpos : 2 ≤ count) (hle : count ≤ longestRepeat)
    (value : UInt8) : Spelt (Run.repeated count value).encode (.repeated count value) := by
  have hle : count ≤ 129 := hle
  have hc : (UInt8.ofNat (257 - count)).toNat = 257 - count := by
    rw [UInt8.toNat_ofNat']
    omega
  have large : ¬ UInt8.ofNat (257 - count) < 128 := by
    rw [UInt8.lt_iff_toNat_lt, hc]
    change ¬ 257 - count < 128
    omega
  have h := Spelt.repeated large value
  rw [hc] at h
  rwa [show 257 - (257 - count) = count by omega] at h

/-- Splitting keeps the data and makes runs that can be written. -/
theorem splitRuns_spec (seen : List Run) (data : Octets) :
    ∃ runs, splitRuns seen data = seen.reverse ++ runs ∧ (∀ run ∈ runs, Spelt run.encode run) ∧
      runs.flatMap Run.expand = data := by
  fun_induction splitRuns seen data with
  | case1 seen => exact ⟨[], (List.append_nil _).symm, fun _ h => absurd h List.not_mem_nil, rfl⟩
  | case2 seen v rest same _ more ih =>
      obtain ⟨runs, hr, hw, he⟩ := ih
      have hle : more.length ≤ 127 := literalPart_length_le _ _
      refine ⟨.literal (v :: more) :: runs, ?_, ?_, ?_⟩
      · rw [hr, List.reverse_cons, List.append_assoc]
        rfl
      · intro run hrun
        rcases List.mem_cons.mp hrun with rfl | hrun
        · exact encode_literal_spelt (Nat.succ_pos _) (Nat.succ_le_succ hle)
        · exact hw run hrun
      · rw [List.flatMap_cons, he]
        refine congrArg (v :: ·) ?_
        obtain ⟨tail, ht⟩ := literalPart_prefix (longestLiteral - 1) rest
        calc more ++ rest.drop more.length = more ++ tail := by rw [← ht, List.drop_left]
          _ = rest := ht
  | case3 seen v rest same hsame ih =>
      obtain ⟨runs, hr, hw, he⟩ := ih
      have hpre : same <+: rest := (List.takeWhile_prefix _).trans (List.take_prefix _ _)
      have hrep : same = List.replicate same.length v := by
        have hall : same.all (· == v) = true := List.all_takeWhile
        exact List.eq_replicate_of_mem fun w hw => eq_of_beq (List.all_eq_true.mp hall w hw)
      have hle : same.length ≤ 128 :=
        Nat.le_trans (List.takeWhile_prefix _).length_le (List.length_take_le _ _)
      have hpos : 0 < same.length := List.length_pos_iff.mpr (by simpa using hsame)
      refine ⟨.repeated (same.length + 1) v :: runs, ?_, ?_, ?_⟩
      · rw [hr, List.reverse_cons, List.append_assoc]
        rfl
      · intro run hrun
        rcases List.mem_cons.mp hrun with rfl | hrun
        · exact encode_repeated_spelt (Nat.succ_le_succ hpos) (Nat.succ_le_succ hle) v
        · exact hw run hrun
      · rw [List.flatMap_cons, he]
        obtain ⟨tail, ht⟩ := hpre
        calc List.replicate (same.length + 1) v ++ rest.drop same.length
            = v :: (same ++ rest.drop same.length) := by
              rw [List.replicate_succ, List.cons_append, ← hrep]
          _ = v :: rest := by rw [← ht, List.drop_left]

/-- What `compress` writes are whole runs for the data, and they fill its length exactly. -/
theorem compress_spelt (data : Octets) :
    ∃ words runs, compress data = words.flatten ∧ List.Forall₂ Spelt words runs ∧
      Fills (compress data).length words ∧ runs.flatMap Run.expand = data := by
  obtain ⟨runs, hr, hw, he⟩ := splitRuns_spec [] data
  have hc : compress data = (runs.map Run.encode).flatten := by
    rw [compress, hr, List.flatMap_def]
    rfl
  have hs : List.Forall₂ Spelt (runs.map Run.encode) runs := by
    rw [List.forall₂_map_left_iff, List.forall₂_same]
    exact hw
  refine ⟨runs.map Run.encode, runs, hc, hs, ?_, he⟩
  rw [hc]
  exact fills_flatten (words_ne_nil hs)

theorem foldl_expand (runs : List Run) (buffer : Array UInt8) :
    (runs.foldl (fun line run => line ++ run.expand) buffer).toList =
      buffer.toList ++ runs.flatMap Run.expand := by
  induction runs generalizing buffer with
  | nil => exact (List.append_nil _).symm
  | cons run runs ih =>
      rw [List.foldl_cons, ih, Array.toList_appendList, List.append_assoc, List.flatMap_cons]

/-- The line that a buffer receives is what the runs stand for, whatever it held before. -/
theorem expandInto_eq (length : Nat) (c : Cursor) (buffer : Array UInt8) :
    expandInto length c buffer =
      ⟨(expand length c).output.toArray, (expand length c).after.position - c.position,
        (expand length c).complete, (expand length c).after⟩ := by
  have hempty : (buffer.shrink 0).toList = [] := by simp
  have hline : ((expand length c).runs.foldl (fun line run => line ++ run.expand)
      (buffer.shrink 0) ++ (expand length c).tail).toList = (expand length c).output := by
    rw [Array.toList_appendList, foldl_expand, hempty, List.nil_append]
    rfl
  rw [← hline]
  rfl

/-- What was encoded comes back, in any buffer and before any other bytes. -/
theorem expandInto_compress (data suffix : Octets) (p : Nat) (buffer : Array UInt8) :
    expandInto (compress data).length ⟨p, compress data ++ suffix⟩ buffer =
      ⟨data.toArray, (compress data).length, true, ⟨p + (compress data).length, suffix⟩⟩ := by
  obtain ⟨words, runs, hw, hs, hf, he⟩ := compress_spelt data
  have hread : expand (compress data).length ⟨p, compress data ++ suffix⟩ =
      ⟨runs, [], true, ⟨p + (compress data).length, suffix⟩⟩ := by
    rw [hw] at hf ⊢
    exact expand_words hs hf p suffix
  rw [expandInto_eq, hread, Expansion.output, List.append_nil, he]
  simp only [Nat.add_sub_cancel_left]

end RunLength
end LabelStream
