import LabelStream.Command.Builder
import LabelStream.Proofs.Runs
import Mathlib.Algebra.Order.Floor.Div

/-! How long the run-length code of a line can get. A run of literals costs one octet more than it
holds, and a repetition never costs more. What keeps literals few is that only a pair or the longest
possible run ends them before the data ends. -/
namespace LabelStream

/-- A number comes back from its two octets without what they have no room for. -/
theorem pairValue_mod (n : Nat) :
    pairValue (UInt8.ofNat n) (UInt8.ofNat (n / 256)) = n % 65536 := by
  simp only [pairValue, UInt8.toNat_ofNat']
  omega

namespace RunLength

/-- The data begins with an octet and the same octet again. -/
def Paired (data : Octets) : Prop := ∃ v rest, data = v :: v :: rest

/-- Literals that could go on end with the data or before a pair. -/
theorem literalPart_stops {n : Nat} {data : Octets} (h : (literalPart n data).length < n) :
    data.drop (literalPart n data).length = [] ∨ Paired (data.drop (literalPart n data).length) := by
  fun_induction literalPart n data with
  | case1 data => exact absurd h (Nat.lt_irrefl 0)
  | case2 n => exact .inl rfl
  | case3 n v => exact .inl rfl
  | case4 n v rest => exact .inr ⟨v, rest, rfl⟩
  | case5 n v w rest _ ih => exact ih (Nat.lt_of_succ_lt_succ h)

/-- An octet that is not repeated begins literals. -/
theorem splitRuns_alone {v : UInt8} {rest : Octets}
    (h : (rest.take (longestRepeat - 1)).takeWhile (· == v) = []) (seen : List Run) :
    splitRuns seen (v :: rest) =
      splitRuns (.literal (v :: literalPart (longestLiteral - 1) rest) :: seen)
        (rest.drop (literalPart (longestLiteral - 1) rest).length) := by
  rw [splitRuns, h]
  rfl

theorem splitRuns_same {v : UInt8} {rest : Octets}
    (h : (rest.take (longestRepeat - 1)).takeWhile (· == v) ≠ []) (seen : List Run) :
    splitRuns seen (v :: rest) =
      splitRuns (.repeated (((rest.take (longestRepeat - 1)).takeWhile (· == v)).length + 1) v :: seen)
        (rest.drop ((rest.take (longestRepeat - 1)).takeWhile (· == v)).length) := by
  rw [splitRuns]
  exact if_neg (by simpa using h)

/-- A run and the code of what follows it. -/
theorem flatMap_encode_length (run : Run) (runs : List Run) :
    ((run :: runs).flatMap Run.encode).length =
      run.encode.length + (runs.flatMap Run.encode).length := by
  rw [List.flatMap_cons, List.length_append]

/-- Three octets can cost a fourth, and two octets more have to be paid for once. Data that begins
with a pair saves these two, and they pay for the literals before it. -/
theorem splitRuns_cost (seen : List Run) (data : Octets) :
    ∃ runs, splitRuns seen data = seen.reverse ++ runs ∧
      3 * (runs.flatMap Run.encode).length ≤ 4 * data.length + 2 ∧
      (Paired data → 3 * (runs.flatMap Run.encode).length ≤ 4 * data.length) := by
  fun_induction splitRuns seen data with
  | case1 seen => exact ⟨[], (List.append_nil _).symm, Nat.zero_le _, fun _ => Nat.zero_le _⟩
  | case2 seen v rest same alone more ih =>
      obtain ⟨runs, hr, hcost, hpaired⟩ := ih
      have begins : more <+: rest := literalPart_prefix (longestLiteral - 1) rest
      have hmore := begins.length_le
      have hfull : longestLiteral - 1 = 127 := rfl
      have hrun : (Run.literal (v :: more)).encode.length = more.length + 2 := rfl
      refine ⟨.literal (v :: more) :: runs, ?_, ?_, ?_⟩
      · rw [hr, List.reverse_cons, List.append_assoc]
        rfl
      · rw [flatMap_encode_length, hrun, List.length_cons]
        rw [List.length_drop] at hcost hpaired
        by_cases full : more.length < longestLiteral - 1
        · rcases literalPart_stops full with ended | paired
          · have hend := congrArg List.length ended
            rw [List.length_drop, List.length_nil] at hend
            change rest.length - more.length = 0 at hend
            omega
          · have hsaved := hpaired paired
            omega
        · omega
      · -- The branch of a literal is not taken where a pair stands.
        rintro ⟨w, tail, hw⟩
        cases hw
        simp [same, longestRepeat] at alone
  | case3 seen v rest same hsame ih =>
      obtain ⟨runs, hr, hcost, _⟩ := ih
      have hle : same.length ≤ rest.length :=
        ((List.takeWhile_prefix _).trans (List.take_prefix _ _)).length_le
      have hpos : 0 < same.length := List.length_pos_iff.mpr (by simpa using hsame)
      have hrun : (Run.repeated (same.length + 1) v).encode.length = 2 := rfl
      have hrest : 3 * ((Run.repeated (same.length + 1) v :: runs).flatMap Run.encode).length ≤
          4 * (v :: rest).length := by
        rw [flatMap_encode_length, hrun, List.length_cons]
        rw [List.length_drop] at hcost
        omega
      refine ⟨.repeated (same.length + 1) v :: runs, ?_, Nat.le_add_right_of_le hrest,
        fun _ => hrest⟩
      rw [hr, List.reverse_cons, List.append_assoc]
      rfl

theorem ceilDiv_three (n : Nat) : n ⌈/⌉ 3 = (n + 2) / 3 := Nat.ceilDiv_eq_add_pred_div n 3

theorem compress_length_le (data : Octets) :
    (compress data).length ≤ data.length + data.length ⌈/⌉ 3 := by
  obtain ⟨runs, hr, hcost, _⟩ := splitRuns_cost [] data
  rw [compress, hr, ceilDiv_three]
  change (runs.flatMap Run.encode).length ≤ _
  omega

/-- Data that is as long as can be in code: a lone octet before every pair. -/
def stubborn : Nat → Octets
  | 0 => []
  | 1 => [0]
  | 2 => [0, 1]
  | n + 3 => 0 :: 1 :: 1 :: stubborn n

theorem stubborn_length (n : Nat) : (stubborn n).length = n := by
  fun_induction stubborn n with
  | case1 => rfl
  | case2 => rfl
  | case3 => rfl
  | case4 n ih => exact congrArg (· + 3) ih

/-- A lone octet and a pair are two runs. -/
theorem splitRuns_stubborn_succ (seen : List Run) (n : Nat) :
    splitRuns seen (stubborn (n + 3)) =
      splitRuns (.repeated 2 1 :: .literal [0] :: seen) (stubborn n) := by
  have pair : ((1 :: stubborn n).take (longestRepeat - 1)).takeWhile (· == 1) = [1] := by
    fun_cases stubborn n <;> rfl
  calc splitRuns seen (0 :: 1 :: 1 :: stubborn n)
      = splitRuns (.literal [0] :: seen) (1 :: 1 :: stubborn n) := splitRuns_alone rfl seen
    _ = splitRuns (.repeated 2 1 :: .literal [0] :: seen) (stubborn n) := by
      rw [splitRuns_same (by rw [pair]; exact List.cons_ne_nil _ _), pair]
      rfl

/-- What was seen is the start of the code. -/
theorem seen_encode_length (run : Run) (seen : List Run) :
    ((run :: seen).reverse.flatMap Run.encode).length =
      (seen.reverse.flatMap Run.encode).length + run.encode.length := by
  rw [List.reverse_cons, List.flatMap_append, List.length_append, List.flatMap_singleton]

theorem splitRuns_stubborn_length (seen : List Run) (n : Nat) :
    ((splitRuns seen (stubborn n)).flatMap Run.encode).length =
      (seen.reverse.flatMap Run.encode).length + (n + n ⌈/⌉ 3) := by
  have ended : ∀ seen : List Run, splitRuns seen [] = seen.reverse := fun seen => by rw [splitRuns]
  fun_induction stubborn n generalizing seen with
  | case1 => exact congrArg (fun runs => (runs.flatMap Run.encode).length) (ended seen)
  | case2 =>
      have lone : splitRuns seen [0] = (Run.literal [0] :: seen).reverse :=
        (splitRuns_alone rfl seen).trans (ended _)
      rw [lone, seen_encode_length]
      rfl
  | case3 =>
      have both : splitRuns seen [0, 1] = (Run.literal [0, 1] :: seen).reverse :=
        (splitRuns_alone rfl seen).trans (ended _)
      rw [both, seen_encode_length]
      rfl
  | case4 n ih =>
      have hthird : (n + 3) ⌈/⌉ 3 = n ⌈/⌉ 3 + 1 := by
        rw [ceilDiv_three, ceilDiv_three]
        omega
      have hlone : (Run.literal [0]).encode.length = 2 := rfl
      have hpair : (Run.repeated 2 1).encode.length = 2 := rfl
      have hstep := splitRuns_stubborn_succ seen n
      rw [stubborn] at hstep
      rw [hstep, ih, seen_encode_length, seen_encode_length, hlone, hpair, hthird]
      omega

theorem compress_stubborn_length (n : Nat) : (compress (stubborn n)).length = n + n ⌈/⌉ 3 :=
  (splitRuns_stubborn_length [] n).trans (Nat.zero_add _)

end RunLength

namespace Builder

/-- The two octets of a length field hold the length of the code, as far as they can. -/
theorem rasterLineCompressed_field (data : Octets) :
    ∃ low high, rasterLineCompressed data = 0x47 :: low :: high :: RunLength.compress data ∧
      pairValue low high = (RunLength.compress data).length % 65536 :=
  ⟨_, _, rfl, pairValue_mod _⟩

end Builder

namespace RunLength

/-- The code of `n` octets is at most a third of them longer than they are, a part of a third counted as
whole, and some data needs that much. So the length of a line always fits its two octets up to 49151
octets of data, and can fail to from there on. -/
theorem compress_worst (n : Nat) :
    IsGreatest {length | ∃ data : Octets, data.length = n ∧ (compress data).length = length}
      (n + n ⌈/⌉ 3) ∧
    (n ≤ 49151 → ∀ data : Octets, data.length = n →
      ∃ low high, Builder.rasterLineCompressed data = 0x47 :: low :: high :: compress data ∧
        pairValue low high = (compress data).length) ∧
    (49152 ≤ n → ∃ data : Octets, data.length = n ∧ 65536 ≤ (compress data).length ∧
      ∃ low high, Builder.rasterLineCompressed data = 0x47 :: low :: high :: compress data ∧
        pairValue low high = (compress data).length % 65536) := by
  have most : ∀ data : Octets, data.length = n → (compress data).length ≤ n + n ⌈/⌉ 3 := by
    rintro data rfl
    exact compress_length_le data
  have reached : (stubborn n).length = n ∧ (compress (stubborn n)).length = n + n ⌈/⌉ 3 :=
    ⟨stubborn_length n, compress_stubborn_length n⟩
  refine ⟨⟨⟨stubborn n, reached⟩, ?_⟩, fun short data hd => ?_, fun long => ?_⟩
  · rintro length ⟨data, hd, rfl⟩
    exact most data hd
  · obtain ⟨low, high, hbytes, hfield⟩ := Builder.rasterLineCompressed_field data
    refine ⟨low, high, hbytes, hfield.trans (Nat.mod_eq_of_lt ?_)⟩
    have hmost := most data hd
    rw [ceilDiv_three] at hmost
    omega
  · refine ⟨stubborn n, reached.1, ?_, Builder.rasterLineCompressed_field (stubborn n)⟩
    rw [reached.2, ceilDiv_three]
    omega

end RunLength
end LabelStream
