import LabelStream.CommandLine.Run
import LabelStream.ImageFile.Encoder

/-! The program: it looks at what an invocation needs from outside, runs it, and carries out what the run
says. Nothing is downloaded or served from here. -/
namespace LabelStream.CommandLine

def failureText : IO.Error → String
  | .otherError code text | .resourceBusy code text | .resourceVanished code text
  | .unsupportedOperation code text | .hardwareFault code text | .unsatisfiedConstraints code text
  | .illegalOperation code text | .protocolError code text | .timeExpired code text
  | .interrupted _ code text | .noFileOrDirectory _ code text | .alreadyExists _ code text
  | .invalidArgument _ code text | .permissionDenied _ code text | .resourceExhausted _ code text
  | .inappropriateType _ code text | .noSuchThing _ code text =>
    text ++ " (os error " ++ toString code ++ ")"
  | .unexpectedEof => "unexpected end of file"
  | .userError text => text

/-- Reads a stream to its end. -/
partial def readAll (stream : IO.FS.Stream) (read : ByteArray) : IO ByteArray := do
  let part ← stream.read 65536
  if part.isEmpty then return read else readAll stream (read ++ part)

def observe (invocation : Invocation) : IO World := do
  let mut stdin : Octets := []
  let mut contents : Except String Octets := .ok []
  match invocation.source? with
  | some .stdin => stdin := (← readAll (← IO.getStdin) .empty).toList
  | some (.file path) =>
    contents ←
      try
        let file ← IO.FS.Handle.mk path .read
        pure (.ok (← file.readBinToEnd).toList)
      catch e => pure (.error (failureText e))
  | some (.url _) | none => pure ()
  let found := contents
  return {
    stdin
    contents := fun _ => found
    writeFault? := fun _ => none
    reply := Reply.silence
    listenFault := fun _ => "Operation not supported (os error 95)" }

def Content.bytes : Content → Except String ByteArray
  | .octets data => .ok (ImageFile.append .empty data)
  | .image format picture =>
    match ImageFile.encode? format picture with
    | some bytes => .ok bytes
    | none => .error (FormatFault.unwritten format).message

/-- Writes a file. The answer is why it could not be written. -/
def writeFile (path : String) (content : Content) : IO (Option String) := do
  match content.bytes with
  | .error detail => return some detail
  | .ok bytes =>
    try
      IO.FS.writeBinFile path bytes
      return none
    catch e => return some (failureText e)

/-- Runs an invocation and writes its files. If that fails, it is run again in a world that knows. -/
def carryOut (invocation : Invocation) : IO Ended := do
  let world ← observe invocation
  let ended := invoke world invocation
  for (path, content) in ended.record.files do
    if let some detail ← writeFile path content then
      return invoke { world with writeFault? := fun _ => some detail } invocation
  return ended

end LabelStream.CommandLine

open LabelStream.CommandLine in
def main (arguments : List String) : IO UInt32 := do
  match parse arguments with
  | .error refusal =>
    for line in refusal.lines do
      if refusal = .usage then IO.eprintln line else IO.println line
    return refusal.status.toUInt32
  | .ok invocation =>
    let ended ← carryOut invocation
    for line in ended.record.stdout do
      IO.println line
    for message in ended.record.messages do
      IO.eprintln ("[" ++ message.level.label ++ "] " ++ message.shown)
    return ended.status.toUInt32
