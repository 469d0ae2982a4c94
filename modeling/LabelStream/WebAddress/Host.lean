import LabelStream.Text.Percent
import LabelStream.Text.Utf8
import LabelStream.WebAddress.DomainName

/-! Hosts of web addresses. A host is a name or a number, and each has one spelling: names in lower
case, numbers of four parts in decimals, numbers of eight groups with their longest run of zeros left
out. -/
namespace LabelStream.WebAddress

inductive Host where
  | name (text : String)
  | fourParts (number : Nat)
  | eightGroups (groups : List Nat)
  deriving Repr, DecidableEq

namespace Host

/-- The number that digits stand for, if they are digits of the base. -/
def number? (base : Nat) (text : List Char) : Option Nat :=
  text.foldlM (fun n c => ((Text.Hex.value? c).filter (· < base)).map (n * base + ·)) 0

/-- A part of a number: hexadecimal after `0x`, octal after `0`, else decimal. -/
def part? : List Char → Option Nat
  | [] => none
  | '0' :: 'x' :: digits | '0' :: 'X' :: digits => number? 16 digits
  | ['0'] => some 0
  | '0' :: digits => number? 8 digits
  | digits => number? 10 digits

/-- The parts of a name; one full stop at its end does not begin another. -/
def parts (text : List Char) : List (List Char) :=
  let parts := text.splitOn '.'
  if parts.getLast? = some [] then parts.dropLast else parts

/-- The host is meant as a number, since its last part is one. -/
def isNumeric (text : List Char) : Bool :=
  match (parts text).getLast? with
  | none => false
  | some last => (!last.isEmpty && last.all Char.isDigit) || (part? last).isSome

/-- Joins parts into one number. The last part fills all places that are left. -/
def joinParts? (last : Nat) (before : List Nat) : Option Nat :=
  if 3 < before.length || before.any (255 < ·) || Nat.pow 256 (4 - before.length) ≤ last then none
  else some (before.foldl (fun n part => n * 256 + part) 0 * Nat.pow 256 (4 - before.length) + last)

def fourParts? (text : List Char) : Option Host := do
  let numbers ← (parts text).mapM part?
  let number ← joinParts? (← numbers.getLast?) numbers.dropLast
  return .fourParts number

/-- Four decimal parts at the end of eight groups: none starts with a needless zero. -/
def tail? (text : List Char) : Option (List Nat) := do
  let numbers ← (text.splitOn '.').mapM fun part =>
    if part.length = 0 || (1 < part.length && part.head? = some '0') then none
    else (number? 10 part).filter (· < 256)
  match numbers with
  | [a, b, c, d] => some [a * 256 + b, c * 256 + d]
  | _ => none

def group? (text : List Char) : Option Nat :=
  if text.isEmpty || 4 < text.length then none else number? 16 text

/-- Groups with colons between them. Only the last may be written in four parts. -/
def groups? (tailed : Bool) (text : List Char) : Option (List Nat) :=
  if text.isEmpty then some []
  else do
    let pieces := text.splitOn ':'
    let last ← pieces.getLast?
    let before ← pieces.dropLast.mapM group?
    let last ← if tailed && last.contains '.' then tail? last else (group? last).map ([·])
    return before ++ last

/-- What stands before and after the first two colons in a row. -/
def splitAtGap (seen : List Char) : List Char → Option (List Char × List Char)
  | ':' :: ':' :: rest => some (seen.reverse, rest)
  | c :: rest => splitAtGap (c :: seen) rest
  | [] => none

def eightGroups? (text : List Char) : Option Host := do
  match splitAtGap [] text with
  | none =>
    let groups ← groups? true text
    if groups.length = 8 then some (.eightGroups groups) else none
  | some (before, after) =>
    let before ← groups? false before
    let after ← groups? true after
    let known := before.length + after.length
    if known < 8 then some (.eightGroups (before ++ List.replicate (8 - known) 0 ++ after)) else none

/-- Reads a name, or four parts that are spelled like one. -/
def name? (text : List Char) : Option Host := do
  let octets := Text.Percent.decode (String.ofList text).toUTF8.toList
  let name ← DomainName.ascii? (Text.Utf8.decodeLossy octets).toList
  if name.isEmpty then none
  else if isNumeric name then fourParts? name
  else some (.name (String.ofList name))

/-- Reads a host. Numbers of eight groups stand in brackets. -/
def parse? : List Char → Option Host
  | '[' :: rest => if rest.getLast? = some ']' then eightGroups? rest.dropLast else none
  | text => name? text

/-- How many zeros the groups begin with. -/
def zeros (groups : List Nat) : Nat := (groups.takeWhile (· == 0)).length

/-- Where the longest run of at least two zeros starts, the first of those of one length. -/
def gap? (groups : List Nat) : Option Nat :=
  let longest := ((List.range groups.length).map fun i => zeros (groups.drop i)).foldl max 0
  if longest < 2 then none else (List.range groups.length).find? fun i => zeros (groups.drop i) = longest

def groupsText (groups : List Nat) : String :=
  ":".intercalate (groups.map fun g => String.ofList (Nat.toDigits 16 g))

def text : Host → String
  | name text => text
  | fourParts n =>
    ".".intercalate ([n / 16777216, n / 65536 % 256, n / 256 % 256, n % 256].map toString)
  | eightGroups groups =>
    let inner := match gap? groups with
      | none => groupsText groups
      | some start =>
        groupsText (groups.take start) ++ "::" ++
          groupsText (groups.drop (start + zeros (groups.drop start)))
    "[" ++ inner ++ "]"

end Host
end LabelStream.WebAddress
