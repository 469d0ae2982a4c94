import LabelStream.Text.Hex

/-! JSON values as they are written: the members of an object keep their order and their duplicates,
and numbers that are not natural keep their literal. Values are written as a list of tokens. -/
namespace LabelStream

/-- The text of a JSON string. There is none if an escape leaves half of a surrogate pair. -/
abbrev JsonText := Option String

inductive Json where
  | null
  | bool (value : Bool)
  | natural (value : Nat)
  /-- A negative number or one with a fraction or exponent. -/
  | decimal (literal : String)
  | string (text : JsonText)
  | array (items : List Json)
  | object (members : List (JsonText × Json))
  deriving Repr

namespace Json

inductive Token where
  | null
  | bool (value : Bool)
  | natural (value : Nat)
  | decimal (literal : String)
  | string (text : JsonText)
  | openArray
  | closeArray
  | openObject
  | closeObject
  | comma
  | colon
  deriving Repr, DecidableEq

mutual

def tokens : Json → List Token
  | null => [.null]
  | bool value => [.bool value]
  | natural value => [.natural value]
  | decimal literal => [.decimal literal]
  | string text => [.string text]
  | array items => .openArray :: (itemTokens true items ++ [.closeArray])
  | object members => .openObject :: (memberTokens true members ++ [.closeObject])

/-- The tokens of the items of an array; a comma precedes each but the first. -/
def itemTokens (first : Bool) : List Json → List Token
  | [] => []
  | item :: rest =>
    (if first then [] else [.comma]) ++ (item.tokens ++ itemTokens false rest)

def memberTokens (first : Bool) : List (JsonText × Json) → List Token
  | [] => []
  | (key, value) :: rest =>
    (if first then [] else [.comma]) ++
      (.string key :: .colon :: (value.tokens ++ memberTokens false rest))

end

/-- A character inside a string: quotes, backslashes and control characters are escaped. -/
def escapeChar (c : Char) : List Char :=
  match c with
  | '"' => ['\\', '"']
  | '\\' => ['\\', '\\']
  | '\n' => ['\\', 'n']
  | '\r' => ['\\', 'r']
  | '\t' => ['\\', 't']
  | '\x08' => ['\\', 'b']
  | '\x0c' => ['\\', 'f']
  | c =>
    if c.toNat < 32 then
      ['\\', 'u', '0', '0', Text.Hex.lower (c.toNat / 16), Text.Hex.lower (c.toNat % 16)]
    else [c]

/-- A text in quotes. Half a surrogate pair stands for a text that there is not. -/
def quote : JsonText → List Char
  | some text => '"' :: (text.toList.flatMap escapeChar ++ ['"'])
  | none => ['"', '\\', 'u', 'd', '8', '0', '0', '"']

def Token.write : Token → List Char
  | .null => ['n', 'u', 'l', 'l']
  | .bool true => ['t', 'r', 'u', 'e']
  | .bool false => ['f', 'a', 'l', 's', 'e']
  | .natural value => (toString value).toList
  | .decimal literal => literal.toList
  | .string text => quote text
  | .openArray => ['[']
  | .closeArray => [']']
  | .openObject => ['\x7b']
  | .closeObject => ['\x7d']
  | .comma => [',']
  | .colon => [':']

def text (value : Json) : String := String.ofList (value.tokens.flatMap Token.write)

/-- Gives the member of this name, the first if there are several. -/
def get? (value : Json) (name : String) : Option Json :=
  match value with
  | object members => (members.find? fun member => member.1 == some name).map (·.2)
  | _ => none

end Json
end LabelStream
