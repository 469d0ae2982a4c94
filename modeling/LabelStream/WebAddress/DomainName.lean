import LabelStream.WebAddress.Direction
import LabelStream.WebAddress.Folding
import LabelStream.WebAddress.Joining
import LabelStream.WebAddress.Punycode

/-! International names of hosts. Each has one spelling in ASCII, in which it is looked up. -/
namespace LabelStream.WebAddress.DomainName

/-- How a label begins that is written in the code for international names. -/
def mark : List Char := "xn--".toList

def isAscii (text : List Char) : Bool := text.all (·.toNat < 128)

/-- Labels longer than this are not put into code, and codes longer than twice this not read. -/
def longest : Nat := 1000

/-- Reads the code of a label. A code that does not give a label in the spelling of names is refused,
and so is one of ASCII alone, which ends in a hyphen. -/
def decodeLabel? (code : List Char) : Option (List Char) :=
  if !isAscii code || code.getLast?.getD '-' = '-' || 2 * longest < code.length then none
  else (Punycode.decode? code).filter Folding.isFolded

def isSound (label : List Char) : Bool :=
  !(label.head?.any Text.isMark) && Joining.fits [] label &&
    (isAscii label || label.length ≤ longest)

/-- A label in all its characters, out of code if it is in code. -/
def label? (text : List Char) : Option (List Char) :=
  let label := if mark.isPrefixOf text then decodeLabel? (text.drop mark.length) else some text
  label.filter isSound

def asciiLabel (label : List Char) : List Char :=
  if isAscii label then label else mark ++ Punycode.encode label

def ascii? (name : List Char) : Option (List Char) := do
  let name := Folding.folded name
  if name.any Folding.isUnfit then none
  else
    let labels ← (name.splitOn '.').mapM label?
    if Direction.fits labels then some (['.'].intercalate (labels.map asciiLabel)) else none

end LabelStream.WebAddress.DomainName
