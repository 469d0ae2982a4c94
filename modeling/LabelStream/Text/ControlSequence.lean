/-! Control sequences of terminals, and what is left of a text when they are taken out. An escape
character opens a sequence; how it goes on decides where it ends. -/
namespace LabelStream.Text.ControlSequence

inductive Mode where
  | plain
  | escape
  /-- After an escape and the beginning of a command of several characters. -/
  | escapeMore
  /-- In parameters that a letter ends. -/
  | parameters
  /-- In a command to the device itself, before its body: at its start, in its parameters and after
  them. -/
  | deviceStart
  | deviceParameters
  | deviceMore
  /-- In a body that only the octet 9C or a new sequence ends. -/
  | body
  /-- In a command to the system, which a bell ends. -/
  | system
  deriving Repr, DecidableEq

namespace Mode

/-- A character beyond ASCII that has the octet 9C in it. -/
def holdsEnd (c : Char) : Bool := (String.singleton c).toUTF8.toList.contains 0x9C

/-- The mode after a character that is not shown. -/
def next (mode : Mode) (c : Char) : Mode :=
  if c == '\x18' || c == '\x1A' then plain
  else if c == '\x1B' then escape
  else
    match mode with
    | plain => plain
    | escape =>
      if ' ' ≤ c && c ≤ '/' then escapeMore
      else if c == '[' then parameters
      else if c == ']' then system
      else if c == 'P' then deviceStart
      else if c == 'X' || c == '^' || c == '_' then body
      else if '0' ≤ c && c ≤ '~' then plain
      else escape
    | escapeMore => if '0' ≤ c && c ≤ '~' then plain else escapeMore
    | parameters => if '@' ≤ c && c ≤ '~' then plain else parameters
    | deviceStart =>
      if '@' ≤ c && c ≤ '~' then body
      else if '0' ≤ c && c ≤ '?' then deviceParameters
      else if ' ' ≤ c && c ≤ '/' then deviceMore
      else deviceStart
    | deviceParameters =>
      if '<' ≤ c && c ≤ '~' then body
      else if ' ' ≤ c && c ≤ '/' then deviceMore
      else deviceParameters
    | deviceMore => if '0' ≤ c && c ≤ '~' then body else deviceMore
    | body => if holdsEnd c then plain else body
    | system => if c == '\x07' then plain else system

/-- Blanks are shown within sequences too, as far as these are not commands to device or system. All
else is shown in plain text only, and never a control. -/
def shows (mode : Mode) (c : Char) : Bool :=
  match mode with
  | plain => c == '\t' || c == '\n' || c == '\x0C' || c == '\r' || (' ' ≤ c && c != '\x7F')
  | escape | escapeMore | parameters => c == '\t' || c == '\n' || c == '\x0C' || c == '\r'
  | deviceStart | deviceParameters | deviceMore | body | system => false

end Mode

/-- What is shown of a text. Once something is shown, the text counts as plain until something is
hidden; only then the mode from before takes over again, unless there was a character beyond ASCII. -/
def visible (mode : Mode) (showing : Bool) : List Char → List Char
  | [] => []
  | c :: rest =>
    if (if showing then Mode.plain else mode).shows c then
      c :: visible (if c ≤ '\x7F' then mode else .plain) true rest
    else visible (mode.next c) false rest

/-- Takes the control sequences and the control characters out of a text, all but blanks. -/
def remove (text : String) : String := String.ofList (visible .plain true text.toList)

end LabelStream.Text.ControlSequence
