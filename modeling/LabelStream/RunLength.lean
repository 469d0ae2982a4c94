import LabelStream.Cursor

/-! The run-length code of raster lines. A control octet below 128 announces that many literal
octets and one more; any other control octet `k` repeats the next octet `257 - k` times. -/
namespace LabelStream.RunLength

/-- The longest run of literals that one control octet can announce. -/
def longestLiteral : Nat := 128

/-- The longest repetition that one control octet can announce. -/
def longestRepeat : Nat := 129

inductive Run where
  | literal (octets : Octets)
  | repeated (count : Nat) (value : UInt8)
  deriving Repr, DecidableEq

namespace Run

def expand : Run → Octets
  | literal octets => octets
  | repeated count value => List.replicate count value

/-- The run as it is written, control octet first. -/
def encode : Run → Octets
  | literal octets => UInt8.ofNat (octets.length - 1) :: octets
  | repeated count value => [UInt8.ofNat (257 - count), value]

end Run

inductive RunReading where
  | whole (run : Run) (after : Cursor)
  /-- The data ended inside the run; `arrived` holds the literals that came before the end. -/
  | cut (arrived : Octets) (after : Cursor)

/-- The literals that the control octet `control` announces. -/
def readLiterals (control : UInt8) (c : Cursor) : RunReading :=
  let arrived := c.take (control.toNat + 1)
  if arrived.1.length = control.toNat + 1 then .whole (.literal arrived.1) arrived.2
  else .cut arrived.1 arrived.2

def readRun (c : Cursor) : RunReading :=
  match c.next with
  | (none, after) => .cut [] after
  | (some control, after) =>
    if control < 128 then readLiterals control after
    else
      match after.next with
      | (none, rest) => .cut [] rest
      | (some value, rest) => .whole (.repeated (257 - control.toNat) value) rest

/-- The cursor behind what was read, whole or not. -/
def RunReading.after : RunReading → Cursor
  | whole _ after => after
  | cut _ after => after

theorem readLiterals_rest_le (control : UInt8) (c : Cursor) :
    (readLiterals control c).after.rest.length ≤ c.rest.length := by
  dsimp only [readLiterals]
  split <;> exact Cursor.take_rest_le _ _

theorem readRun_rest_lt_or_nil (c : Cursor) :
    (readRun c).after.rest.length < c.rest.length ∨ c.rest = [] := by
  rcases c with ⟨p, _ | ⟨control, rest⟩⟩
  · exact .inr rfl
  · refine .inl ?_
    simp only [readRun, Cursor.next]
    split
    · exact Nat.lt_succ_of_le (readLiterals_rest_le control ⟨p + 1, rest⟩)
    · rcases rest with _ | ⟨value, rest⟩
      · simp [RunReading.after]
      · simp only [RunReading.after, List.length_cons]; omega

theorem readRun_rest_lt {c after : Cursor} {run : Run} (h : readRun c = .whole run after) :
    after.rest.length < c.rest.length := by
  have hc := readRun_rest_lt_or_nil c
  rw [h] at hc
  rcases hc with hc | hc
  · exact hc
  · rcases c with ⟨p, rest⟩
    cases hc
    simp [readRun, Cursor.next] at h

structure Expansion where
  runs : List Run
  /-- Literals of a last run that the end of the data cut short. -/
  tail : Octets
  /-- Every run was whole and the wanted number of octets was reached. -/
  complete : Bool
  after : Cursor

/-- The octets that the runs stand for, those of a cut run included. -/
def Expansion.output (e : Expansion) : Octets := e.runs.flatMap Run.expand ++ e.tail

/-- Reads runs while the cursor stands before `stop`; `seen` holds earlier runs, last one first.
A run that starts before `stop` is read to its end, however far that reaches. -/
def readRuns (stop : Nat) (seen : List Run) (c : Cursor) : Expansion :=
  if c.position < stop then
    match _h : readRun c with
    | .whole run after => readRuns stop (run :: seen) after
    | .cut arrived after => ⟨seen.reverse, arrived, false, after⟩
  else ⟨seen.reverse, [], true, c⟩
termination_by c.rest.length
decreasing_by exact readRun_rest_lt _h

/-- Expands the code of one line whose written form is `length` octets long. -/
def expand (length : Nat) (c : Cursor) : Expansion := readRuns (c.position + length) [] c

/-- A buffer after a line was expanded into it. -/
structure Filling where
  buffer : Array UInt8
  /-- Octets taken off the cursor. -/
  consumed : Nat
  complete : Bool
  after : Cursor
  deriving Repr, DecidableEq

/-- Expands the code of one line into a buffer that serves line after line. What an earlier line left
there is dropped first. -/
def expandInto (length : Nat) (c : Cursor) (buffer : Array UInt8) : Filling :=
  let e := expand length c
  let line := e.runs.foldl (fun line run => line ++ run.expand) (buffer.shrink 0)
  ⟨line ++ e.tail, e.after.position - c.position, e.complete, e.after⟩

theorem readRun_cut_rest_le {c after : Cursor} {arrived : Octets} (h : readRun c = .cut arrived after) :
    after.rest.length ≤ c.rest.length := by
  have hc := readRun_rest_lt_or_nil c
  rw [h] at hc
  rcases hc with hc | hc
  · exact Nat.le_of_lt hc
  · rcases c with ⟨p, rest⟩
    cases hc
    simp [readRun, Cursor.next] at h
    rcases h with ⟨rfl, rfl⟩
    exact Nat.le_refl _

theorem readRuns_rest_le (stop : Nat) (seen : List Run) (c : Cursor) :
    (readRuns stop seen c).after.rest.length ≤ c.rest.length := by
  fun_induction readRuns stop seen c with
  | case1 seen c _ run after h ih => exact Nat.le_trans ih (Nat.le_of_lt (readRun_rest_lt h))
  | case2 seen c _ arrived after h => exact readRun_cut_rest_le h
  | case3 seen c _ => exact Nat.le_refl _

theorem expand_rest_le (length : Nat) (c : Cursor) :
    (expand length c).after.rest.length ≤ c.rest.length := readRuns_rest_le _ _ _

/-- At most `n` leading octets, ended before an octet that its successor repeats. -/
def literalPart : Nat → Octets → Octets
  | 0, _ => []
  | _ + 1, [] => []
  | _ + 1, [v] => [v]
  | n + 1, v :: w :: rest => if v = w then [] else v :: literalPart n (w :: rest)

/-- Splits data into runs: two or more equal octets repeat, all else is grouped into literals.
`seen` holds earlier runs, last one first. -/
def splitRuns (seen : List Run) : Octets → List Run
  | [] => seen.reverse
  | v :: rest =>
    let same := (rest.take (longestRepeat - 1)).takeWhile (· == v)
    if same.isEmpty then
      let more := literalPart (longestLiteral - 1) rest
      splitRuns (.literal (v :: more) :: seen) (rest.drop more.length)
    else splitRuns (.repeated (same.length + 1) v :: seen) (rest.drop same.length)
termination_by data => data.length
decreasing_by all_goals simp only [List.length_cons, List.length_drop]; omega

def compress (data : Octets) : Octets := (splitRuns [] data).flatMap Run.encode

end LabelStream.RunLength
