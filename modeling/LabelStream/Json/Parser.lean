import LabelStream.Json

/-! Reading JSON. The text is cut into tokens, and the tokens are fed one by one to a stack of the
arrays and objects that are still open. -/
namespace LabelStream.Json

def isBlank (c : Char) : Bool := c == ' ' || c == '\t' || c == '\n' || c == '\r'

/-- The number that four hexadecimal digits stand for. -/
def unit? (a b c d : Char) : Option Nat :=
  match Text.Hex.value? a, Text.Hex.value? b, Text.Hex.value? c, Text.Hex.value? d with
  | some a, some b, some c, some d => some (((a * 16 + b) * 16 + c) * 16 + d)
  | _, _, _, _ => none

/-- What a backslash and one character stand for. -/
def simpleEscape? (c : Char) : Option Nat :=
  match c with
  | '"' => some 0x22
  | '\\' => some 0x5C
  | '/' => some 0x2F
  | 'b' => some 0x08
  | 'f' => some 0x0C
  | 'n' => some 0x0A
  | 'r' => some 0x0D
  | 't' => some 0x09
  | _ => none

/-- Reads a string up to its closing quote as code points and halves of surrogate pairs, which only
escapes can bring in. `seen` holds the earlier ones, last one first. -/
def readUnits (seen : List Nat) : List Char → Option (List Nat × List Char)
  | [] => none
  | '"' :: rest => some (seen.reverse, rest)
  | '\\' :: 'u' :: a :: b :: c :: d :: rest =>
    match unit? a b c d with
    | some unit => readUnits (unit :: seen) rest
    | none => none
  | '\\' :: c :: rest =>
    match simpleEscape? c with
    | some unit => readUnits (unit :: seen) rest
    | none => none
  | c :: rest => if c.toNat < 32 || c == '\\' then none else readUnits (c.toNat :: seen) rest

def isHigh (unit : Nat) : Bool := 0xD800 ≤ unit && unit < 0xDC00

def isLow (unit : Nat) : Bool := 0xDC00 ≤ unit && unit < 0xE000

/-- Joins surrogate pairs; half a pair on its own makes no text. -/
def assemble (seen : List Char) : List Nat → JsonText
  | [] => some (String.ofList seen.reverse)
  | [unit] =>
    if isHigh unit || isLow unit then none
    else some (String.ofList (Char.ofNat unit :: seen).reverse)
  | unit :: next :: rest =>
    if isHigh unit then
      if isLow next then
        assemble (Char.ofNat (0x10000 + (unit - 0xD800) * 0x400 + (next - 0xDC00)) :: seen) rest
      else none
    else if isLow unit then none
    else assemble (Char.ofNat unit :: seen) (next :: rest)

def isDigit (c : Char) : Bool := '0' ≤ c && c ≤ '9'

def naturalOf (digits : List Char) : Nat := digits.foldl (fun n c => n * 10 + (c.toNat - 48)) 0

/-- Digits without a needless leading zero. -/
def isNatural : List Char → Bool
  | ['0'] => true
  | c :: rest => isDigit c && c != '0' && rest.all isDigit
  | [] => false

/-- At least one digit. -/
def isDigits (cs : List Char) : Bool := !cs.isEmpty && cs.all isDigit

/-- An exponent's digits, with or without a sign. -/
def isExponent : List Char → Bool
  | '+' :: rest => isDigits rest
  | '-' :: rest => isDigits rest
  | rest => isDigits rest

def isUnsigned (cs : List Char) : Bool :=
  let whole := cs.takeWhile isDigit
  isNatural whole &&
    match cs.dropWhile isDigit with
    | [] => true
    | '.' :: rest =>
      isDigits (rest.takeWhile isDigit) &&
        match rest.dropWhile isDigit with
        | [] => true
        | 'e' :: rest => isExponent rest
        | 'E' :: rest => isExponent rest
        | _ => false
    | 'e' :: rest => isExponent rest
    | 'E' :: rest => isExponent rest
    | _ => false

def isNumber : List Char → Bool
  | '-' :: rest => isUnsigned rest
  | cs => isUnsigned cs

/-- Characters of which numbers and the three literal names consist. -/
def isWordChar (c : Char) : Bool := c.isAlphanum || c == '+' || c == '-' || c == '.'

def wordToken? (word : List Char) : Option Token :=
  if word == ['n', 'u', 'l', 'l'] then some .null
  else if word == ['t', 'r', 'u', 'e'] then some (.bool true)
  else if word == ['f', 'a', 'l', 's', 'e'] then some (.bool false)
  else if isNatural word then some (.natural (naturalOf word))
  else if isNumber word then some (.decimal (String.ofList word))
  else none

def markToken? (c : Char) : Option Token :=
  match c with
  | '[' => some .openArray
  | ']' => some .closeArray
  | '\x7b' => some .openObject
  | '\x7d' => some .closeObject
  | ',' => some .comma
  | ':' => some .colon
  | _ => none

theorem readUnits_rest_le {seen units : List Nat} {cs rest : List Char}
    (h : readUnits seen cs = some (units, rest)) : rest.length ≤ cs.length := by
  fun_induction readUnits seen cs with
  | case1 => simp at h
  | case2 seen rest => simp at h; simp [h.2]
  | case3 seen a b c d tail unit hu ih => have := ih h; simp; omega
  | case4 => simp at h
  | case5 seen c tail unit hu hn ih => have := ih h; simp; omega
  | case6 => simp at h
  | case7 => simp at h
  | case8 seen c tail _ _ _ hc ih => have := ih h; simp; omega

/-- Cuts a text into tokens. `seen` holds the earlier ones, last one first. -/
def lex (seen : List Token) : List Char → Option (List Token)
  | [] => some seen.reverse
  | c :: rest =>
    if isBlank c then lex seen rest
    else if c == '"' then
      match _h : readUnits [] rest with
      | some (units, after) => lex (.string (assemble [] units) :: seen) after
      | none => none
    else
      match markToken? c with
      | some token => lex (token :: seen) rest
      | none =>
        if isWordChar c then
          match wordToken? (c :: rest.takeWhile isWordChar) with
          | some token => lex (token :: seen) (rest.dropWhile isWordChar)
          | none => none
        else none
termination_by cs => cs.length
decreasing_by
  · simp
  · have := readUnits_rest_le _h; simp; omega
  · simp
  · have := (List.dropWhile_sublist (l := rest) isWordChar).length_le; simp; omega

/-- An array or object that is still open, with what it holds so far, last one first. -/
inductive Frame where
  | items (done : List Json)
  | members (done : List (JsonText × Json))
  /-- An object whose next member has a name but no value yet. -/
  | member (done : List (JsonText × Json)) (key : JsonText)

/-- What the next token has to be. -/
inductive Expect where
  | value
  /-- A value, or the end of an array just opened. -/
  | firstItem
  /-- A name, or the end of an object just opened. -/
  | firstKey
  | key
  | colon
  /-- A comma, or the end of what is open. -/
  | next
  /-- Nothing: the text is complete. -/
  | nothing (value : Json)

structure State where
  stack : List Frame
  expect : Expect

/-- Puts a finished value where it belongs. -/
def place (value : Json) : List Frame → Option State
  | [] => some ⟨[], .nothing value⟩
  | .items done :: stack => some ⟨.items (value :: done) :: stack, .next⟩
  | .member done key :: stack => some ⟨.members ((key, value) :: done) :: stack, .next⟩
  | .members _ :: _ => none

def beginValue (stack : List Frame) : Token → Option State
  | .null => place .null stack
  | .bool value => place (.bool value) stack
  | .natural value => place (.natural value) stack
  | .decimal literal => place (.decimal literal) stack
  | .string text => place (.string text) stack
  | .openArray => some ⟨.items [] :: stack, .firstItem⟩
  | .openObject => some ⟨.members [] :: stack, .firstKey⟩
  | .closeArray | .closeObject | .comma | .colon => none

def beginMember : List Frame → Token → Option State
  | .members done :: stack, .string key => some ⟨.member done key :: stack, .colon⟩
  | _, _ => none

def closeFrame : List Frame → Token → Option State
  | .items done :: stack, .closeArray => place (.array done.reverse) stack
  | .members done :: stack, .closeObject => place (.object done.reverse) stack
  | _, _ => none

def continueFrame : List Frame → Token → Option State
  | .items done :: stack, .comma => some ⟨.items done :: stack, .value⟩
  | .members done :: stack, .comma => some ⟨.members done :: stack, .key⟩
  | stack, token => closeFrame stack token

def State.feed (s : State) (token : Token) : Option State :=
  match s.expect with
  | .value => beginValue s.stack token
  | .firstItem => if token = .closeArray then closeFrame s.stack token else beginValue s.stack token
  | .firstKey => if token = .closeObject then closeFrame s.stack token else beginMember s.stack token
  | .key => beginMember s.stack token
  | .colon => if token = .colon then some ⟨s.stack, .value⟩ else none
  | .next => continueFrame s.stack token
  | .nothing _ => none

def State.feedAll (s : State) (tokens : List Token) : Option State := tokens.foldlM State.feed s

def ofTokens? (tokens : List Token) : Option Json :=
  match State.feedAll ⟨[], .value⟩ tokens with
  | some ⟨_, .nothing value⟩ => some value
  | _ => none

/-- Reads a text that holds one value and blanks. -/
def parse? (text : String) : Option Json := (lex [] text.toList).bind ofTokens?

end LabelStream.Json
