import LabelStream.Text.Hex

/-! Tables of characters. A table is written as entries with commas between them. An entry is the
number of a character, or those of the first and the last of a range with a mark between them, and
then the numbers that the table gives; all are hexadecimal. -/
namespace LabelStream.Text

/-- How the numbers of an entry go on along its range. -/
inductive Spread where
  /-- Written `-`: all characters of the range have the same numbers. -/
  | same
  /-- Written `:`, the numbers grow with the characters. -/
  | parallel
  /-- Written `/`, they grow as well, but every second character has none. -/
  | alternate
  deriving Repr, DecidableEq

structure CharRange where
  first : Nat
  last : Nat
  spread : Spread
  numbers : List Nat
  deriving Repr, DecidableEq

abbrev CharTable := List CharRange

namespace CharRange

/-- The numbers that are given for a character of the range. -/
def get? (r : CharRange) (c : Nat) : Option (List Nat) :=
  if c < r.first || r.last < c then none
  else
    match r.spread with
    | .same => some r.numbers
    | .parallel => some (r.numbers.map (· + (c - r.first)))
    | .alternate =>
      if (c - r.first) % 2 = 0 then some (r.numbers.map (· + (c - r.first))) else none

def number (digits : List Char) : Nat :=
  digits.foldl (fun n c => n * 16 + (Hex.value? c).getD 0) 0

def ofWords : List (List Char) → CharRange
  | [] => ⟨1, 0, .same, []⟩
  | key :: numbers =>
    let numbers := numbers.map number
    let first := key.takeWhile (!"-:/".toList.contains ·)
    match key.dropWhile (!"-:/".toList.contains ·) with
    | [] => ⟨number first, number first, .same, numbers⟩
    | ':' :: last => ⟨number first, number last, .parallel, numbers⟩
    | '/' :: last => ⟨number first, number last, .alternate, numbers⟩
    | _ :: last => ⟨number first, number last, .same, numbers⟩

end CharRange

namespace CharTable

def ofText (text : String) : CharTable :=
  (text.toList.splitOn ',').map fun entry =>
    let words := entry.splitOnP fun c => c == ' ' || c == '\n'
    .ofWords (words.filter (!·.isEmpty))

/-- The numbers that the first entry with the character gives for it. -/
def get? (t : CharTable) (c : Char) : Option (List Nat) := t.findSome? (·.get? c.toNat)

def has (t : CharTable) (c : Char) : Bool := (t.get? c).isSome

end CharTable
end LabelStream.Text
