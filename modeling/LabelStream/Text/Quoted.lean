import LabelStream.Text.Printable

/-! Names in messages, set off by quotes or backticks. -/
namespace LabelStream.Text

/-- A character by its number: lower-case hexadecimal digits in braces. -/
def numbered (c : Char) : List Char :=
  '\\' :: 'u' :: '\x7b' :: (Nat.toDigits 16 c.toNat ++ ['\x7d'])

def quotedChar : Char → List Char
  | '"' => ['\\', '"']
  | '\\' => ['\\', '\\']
  | '\n' => ['\\', 'n']
  | '\r' => ['\\', 'r']
  | '\t' => ['\\', 't']
  | '\x00' => ['\\', '0']
  | c => if standsAlone c then [c] else numbered c

/-- A text in quotes. A backslash comes before quotes, backslashes and the common control characters;
any other character that would not be seen is given by its number. -/
def quoted (text : String) : String :=
  String.ofList ('"' :: (text.toList.flatMap quotedChar ++ ['"']))

def inBackticks (text : String) : String := "`" ++ text ++ "`"

end LabelStream.Text
