/-! How a decode ends: the fatal faults of a stream and the reasons for stopping. -/
namespace LabelStream

/-- A byte as two upper-case hexadecimal digits. -/
def hexPair (b : UInt8) : String :=
  String.ofList [digit (b.toNat / 16), digit (b.toNat % 16)]
where
  digit (n : Nat) : Char := if n < 10 then Char.ofNat (48 + n) else Char.ofNat (55 + n)

/-- What is wrong with a byte. After any of these the framing is lost. -/
inductive FaultKind where
  | unsupportedGraphicsMode
  | unrecognizedEscapeSequence
  | unrecognizedOpcode
  deriving Repr, DecidableEq

def FaultKind.message : FaultKind → String
  | unsupportedGraphicsMode => "unsupported ESC * graphics mode"
  | unrecognizedEscapeSequence => "unrecognized escape sequence"
  | unrecognizedOpcode => "unrecognized opcode"

/-- A fatal fault and the offset of the byte to blame. -/
structure Fault where
  position : Nat
  byte : Option UInt8
  kind : FaultKind
  deriving Repr, DecidableEq

def Fault.message (f : Fault) : String :=
  let where_ := f.kind.message ++ " at offset " ++ toString f.position
  match f.byte with
  | none => where_
  | some b => where_ ++ " (byte 0x" ++ hexPair b ++ ")"

inductive Halt where
  /-- The data ended between two commands. -/
  | endOfStream
  /-- A zero byte stood where a command was expected. -/
  | nullTerminator (position : Nat)
  /-- The data ended inside the command that starts at `opcode`. -/
  | truncated (opcode : Nat)
  /-- The host stopped the work between two batches. -/
  | cancelled
  /-- A fault at `position`. -/
  | aborted (position : Nat)
  deriving Repr, DecidableEq

def Halt.message : Halt → String
  | endOfStream => "end of stream"
  | nullTerminator position => "NUL terminator at " ++ toString position
  | truncated opcode => "truncated command at " ++ toString opcode
  | cancelled => "cancelled"
  | aborted position => "aborted at " ++ toString position

end LabelStream
