import LabelStream.Octets

/-! Text out of octets that may not be well-formed UTF-8. Where the octets break the rules, each
longest beginning of a character is replaced by one U+FFFD. -/
namespace LabelStream.Text.Utf8

/-- The ranges that the octets after a leading octet must lie in; none if nothing starts with it. -/
def following? (lead : UInt8) : Option (List (UInt8 × UInt8)) :=
  let any : UInt8 × UInt8 := (0x80, 0xBF)
  if lead < 0x80 then some []
  else if lead < 0xC2 then none
  else if lead < 0xE0 then some [any]
  else if lead = 0xE0 then some [(0xA0, 0xBF), any]
  else if lead = 0xED then some [(0x80, 0x9F), any]
  else if lead < 0xF0 then some [any, any]
  else if lead = 0xF0 then some [(0x90, 0xBF), any, any]
  else if lead < 0xF4 then some [any, any, any]
  else if lead = 0xF4 then some [(0x80, 0x8F), any, any]
  else none

/-- How many octets lie in the ranges one after another. -/
def matching : List (UInt8 × UInt8) → Octets → Nat
  | (low, high) :: ranges, b :: rest => if low ≤ b && b ≤ high then matching ranges rest + 1 else 0
  | _, _ => 0

def codePoint (lead : UInt8) (rest : Octets) : Nat :=
  let start := match rest.length with
    | 0 => lead.toNat
    | 1 => lead.toNat % 32
    | 2 => lead.toNat % 16
    | _ => lead.toNat % 8
  rest.foldl (fun n b => n * 64 + b.toNat % 64) start

/-- Reads octets as text; `seen` holds earlier characters, last one first. -/
def readLossy (seen : List Char) : Octets → List Char
  | [] => seen.reverse
  | lead :: rest =>
    match following? lead with
    | none => readLossy ('\uFFFD' :: seen) rest
    | some ranges =>
      let n := matching ranges rest
      let c := if n = ranges.length then Char.ofNat (codePoint lead (rest.take n)) else '\uFFFD'
      readLossy (c :: seen) (rest.drop n)
termination_by octets => octets.length
decreasing_by all_goals simp only [List.length_cons, List.length_drop]; omega

def decodeLossy (octets : Octets) : String := String.ofList (readLossy [] octets)

end LabelStream.Text.Utf8
