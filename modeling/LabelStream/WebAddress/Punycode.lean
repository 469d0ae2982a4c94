/-! Labels of international host names in the letters, digits and hyphens of the name system. The
characters beyond ASCII follow a hyphen, as the distances between them in a base of 36. -/
namespace LabelStream.WebAddress.Punycode

def digit (n : Nat) : Char := Char.ofNat (if n < 26 then 97 + n else 22 + n)

/-- From which digit on another digit follows at place `k`. -/
def threshold (k bias : Nat) : Nat := max 1 (min 26 (k - bias))

theorem threshold_pos (k bias : Nat) : 0 < threshold k bias := by unfold threshold; omega

/-- Halves a distance by 35 until it is small, and counts 36 for each step. -/
def shrink (delta k : Nat) : Nat × Nat :=
  if 455 < delta then shrink (delta / 35) (k + 36) else (delta, k)
termination_by delta
decreasing_by omega

/-- The bias after a distance, when `points` characters are placed. -/
def adapt (delta points : Nat) (first : Bool) : Nat :=
  let delta := if first then delta / 700 else delta / 2
  let (delta, k) := shrink (delta + delta / points) 0
  k + 36 * delta / (delta + 38)

/-- The digits of a distance, the low ones first. -/
def distance (bias k n : Nat) : List Char :=
  let t := threshold k bias
  if n < t then [digit n]
  else digit (t + (n - t) % (36 - t)) :: distance bias (k + 36) ((n - t) / (36 - t))
termination_by n
decreasing_by
  have := threshold_pos k bias
  have := Nat.div_le_self (n - threshold k bias) (36 - threshold k bias)
  omega

structure Progress where
  written : List Char
  delta : Nat
  bias : Nat
  placed : Nat

/-- Passes a character of the label while those of the value `m` are placed. -/
def pass (basic m : Nat) (p : Progress) (c : Char) : Progress :=
  if c.toNat < m then { p with delta := p.delta + 1 }
  else if c.toNat = m then
    ⟨p.written ++ distance p.bias 36 p.delta, 0, adapt p.delta (p.placed + 1) (p.placed = basic),
      p.placed + 1⟩
  else p

/-- Places all characters of each listed value, from the value `n` on. -/
def place (label : List Char) (basic : Nat) : List Nat → Nat → Progress → Progress
  | [], _, p => p
  | m :: rest, n, p =>
    let p := label.foldl (pass basic m) { p with delta := p.delta + (m - n) * (p.placed + 1) }
    place label basic rest (m + 1) { p with delta := p.delta + 1 }

def encode (label : List Char) : List Char :=
  let basic := label.filter (·.toNat < 128)
  let others := ((label.filter (128 ≤ ·.toNat)).map Char.toNat).mergeSort.eraseDups
  let p := place label basic.length others 128 ⟨[], 0, 72, basic.length⟩
  basic ++ (if basic.isEmpty then [] else ['-']) ++ p.written

def value? (c : Char) : Option Nat :=
  if 'a' ≤ c && c ≤ 'z' then some (c.toNat - 97)
  else if '0' ≤ c && c ≤ '9' then some (c.toNat - 22)
  else none

/-- Distances and their parts stay below this bound. -/
def words : Nat := Nat.pow 2 32

/-- Reads the digits of a distance, each weighed by those before it, and adds it to `sum`. -/
def readDistance? (bias : Nat) : (k weight sum : Nat) → List Char → Option (Nat × List Char)
  | _, _, _, [] => none
  | k, weight, sum, c :: rest =>
    match value? c with
    | none => none
    | some d =>
      let sum := sum + d * weight
      let t := threshold k bias
      if words ≤ sum then none
      else if d < t then some (sum, rest)
      else if words ≤ weight * (36 - t) then none
      else readDistance? bias (k + 36) (weight * (36 - t)) sum rest

theorem readDistance?_rest_lt {bias k weight sum : Nat} {text rest : List Char} {n : Nat}
    (h : readDistance? bias k weight sum text = some (n, rest)) : rest.length < text.length := by
  induction text generalizing k weight sum with
  | nil => simp [readDistance?] at h
  | cons c text ih =>
    simp only [readDistance?] at h
    split at h
    · simp at h
    · split at h
      · simp at h
      · split at h
        · obtain ⟨_, rfl⟩ := Prod.mk.inj (Option.some.inj h)
          simp
        · split at h
          · simp at h
          · have := ih h
            simp only [List.length_cons]
            omega

/-- Reads distances and places a character for each. The next is not before position `i`, nor below
the value `n`. -/
def placeAll? (bias n i : Nat) (label text : List Char) : Option (List Char) :=
  if text.isEmpty then some label
  else
    match _h : readDistance? bias 36 1 i text with
    | none => none
    | some (sum, rest) =>
      let points := label.length + 1
      let m := n + sum / points
      if m.isValidChar then
        placeAll? (adapt (sum - i) points (i = 0)) m (sum % points + 1)
          (label.insertIdx (sum % points) (Char.ofNat m)) rest
      else none
termination_by text.length
decreasing_by exact readDistance?_rest_lt _h

/-- The label that is written in letters, digits and hyphens. The last hyphen ends its part in ASCII,
which is not empty. -/
def decode? (text : List Char) : Option (List Char) :=
  let digits := (text.reverse.takeWhile (· != '-')).reverse
  let basic := text.take (text.length - digits.length - 1)
  if digits.length < text.length && basic.isEmpty then none else placeAll? 72 128 0 basic digits

end LabelStream.WebAddress.Punycode
