import LabelStream.CommandLine.Arguments
import LabelStream.Http.Endpoint
import LabelStream.ImageFile
import LabelStream.Sample
import LabelStream.Text.ControlSequence

/-! What a call of the program does: the lines it prints, what it logs, the files it writes and the
status it exits with. Everything outside the program is given as a world. -/
namespace LabelStream.CommandLine

structure World where
  stdin : Octets
  /-- The contents of a file, or why it cannot be read. -/
  contents : String → Except String Octets
  /-- Why a file cannot be written, if it cannot. -/
  writeFault? : String → Option String
  reply : String → Reply
  /-- Why nothing can be served at an address. -/
  listenFault : String → String

inductive Message where
  | decoding (notice : Notice)
  | loaded (bytes : Nat) (source : String)
  | decoded (opcodes bytes : Nat) (halt : Halt)
  | picture (width height : Nat) (profile : Profile) (blackPixels : Nat)
  | saved (path : String)
  | partialPicture (width height : Nat)
  | wrote (bytes : Nat) (path : String)
  | serverStarting
  | listening (address : String)
  | serverLimits (bytes : Nat) (model : String)
  | failed (error : Error)

namespace Message

def level : Message → Level
  | decoding notice => notice.level
  | failed _ => .error
  | _ => .info

def text : Message → String
  | decoding notice => notice.message
  | loaded bytes source => "Loaded " ++ toString bytes ++ " bytes from " ++ source
  | decoded opcodes bytes halt =>
    "Decoded " ++ toString opcodes ++ " opcodes / " ++ toString bytes ++ " bytes: " ++ halt.message
  | picture width height profile blackPixels =>
    "Image " ++ toString width ++ "x" ++ toString height ++ " dots (" ++
      (profile.dotsToMm width).oneDecimal ++ " x " ++ (profile.dotsToMm height).oneDecimal ++
      " mm at " ++ toString profile.dpi ++ " DPI), " ++ toString blackPixels ++ " black pixels"
  | saved path => "Saved to " ++ path
  | partialPicture width height =>
    "Partial image before the error: " ++ toString width ++ "x" ++ toString height
  | wrote bytes path => "Wrote " ++ toString bytes ++ " bytes to " ++ path
  | serverStarting => "ptdecode HTTP server starting"
  | listening address => "Listening on: " ++ address
  | serverLimits bytes model =>
    "Upload limit: " ++ toString bytes ++ " bytes, default model: " ++ model
  | failed error => error.message

/-- The message as the log shows it: further lines are set in, and control sequences are taken out. -/
def shown (m : Message) : String :=
  Text.ControlSequence.remove (m.text.replace "\n" "\n    ")

end Message

inductive Content where
  | octets (octets : Octets)
  | image (format : ImageFormat) (image : GrayImage)

/-- The capture that an invocation is to decode. -/
def Invocation.source? : Invocation → Option Source
  | .render input _ _ | .trace input _ _ => some (.parse input)
  | .demo _ | .serve _ _ _ => none

structure Record where
  stdout : List String
  messages : List Message
  files : List (String × Content)

/-- A run that ended, well or with an error. -/
structure Ended where
  record : Record
  error : Option Error

namespace Record

def blank : Record := ⟨[], [], []⟩

def print (lines : List String) (r : Record) : Record := { r with stdout := r.stdout ++ lines }

def log (messages : List Message) (r : Record) : Record := { r with messages := r.messages ++ messages }

def write (path : String) (content : Content) (r : Record) : Record :=
  { r with files := r.files ++ [(path, content)] }

def done (r : Record) : Ended := ⟨r, none⟩

/-- Ends the run with an error, which is logged last. -/
def fail (e : Error) (r : Record) : Ended := ⟨r.log [.failed e], some e⟩

end Record

/-- The largest capture that is downloaded: 256 megabytes. -/
def downloadLimit : Nat := 256 * 1024 * 1024

def load (w : World) (input : String) : Except Error Octets :=
  match Source.parse input with
  | .stdin => .ok w.stdin
  | .file path =>
    match w.contents path with
    | .ok octets => .ok octets
    | .error detail => .error (.invalidInput ("Cannot read " ++ path ++ ": " ++ detail))
  | .url address => download address downloadLimit (w.reply address)

/-- Notices that are shown: those of the levels down to information. -/
def shownNotices (j : Journal) : List Message := (j.shown (some .info)).map .decoding

/-- Messages on a picture that was decoded. -/
def describe (d : Decoded) (model : Model) : List Message :=
  [.decoded d.opcodes d.consumed d.halt,
    .picture d.width d.height model.profile d.blackPixels]

def eventLines (d : Decoded) : List String := (d.trace.getD []).map Event.text

def eventObjects (d : Decoded) : List String := (d.trace.getD []).map fun e => e.toJson.text

/-- Loads and decodes a capture, and goes on with what was drawn. After a fault its trace is printed
and the size of the picture is logged. -/
def withDecoded (w : World) (input : String) (o : Options) (next : Decoded → Record → Ended) :
    Ended :=
  match load w input with
  | .error e => Record.blank.fail e
  | .ok capture =>
    let outcome := (Job.drive o none 0 (.start o capture)).outcome
    let r := (Record.blank.log [.loaded capture.length (Source.parse input).label]).log
      (shownNotices outcome.journal)
    match outcome.result with
    | .ok decoded => next decoded r
    | .error failure =>
      let d := failure.decoded
      ((r.print (eventLines d)).log [.partialPicture d.width d.height]).fail (.decode failure.fault)

/-- The picture of a decode and the format that a path names for it. -/
def picture (d : Decoded) (path : String) : Except ExportError (ImageFormat × GrayImage) := do
  let image ← d.export?
  let format ← formatOfPath path
  return (format, image)

/-- Writes the picture to an image file. If the format cannot hold it, the file is left empty. -/
def save (w : World) (d : Decoded) (path : String) (r : Record) : Ended :=
  match picture d path with
  | .error e => r.fail (.image e)
  | .ok (format, image) =>
    match w.writeFault? path with
    | some detail => r.fail (.image (saveFailure path detail))
    | none =>
      match format.fault? image.width image.height with
      | some fault =>
        (r.write path (.octets [])).fail (.image (saveFailure path fault.message))
      | none => ((r.write path (.image format image)).log [.saved path]).done

def render (w : World) (input : String) (png : Option String) (o : Options) : Ended :=
  withDecoded w input o fun d r =>
    let r := (r.print (eventLines d)).log (describe d o.model)
    match png with
    | some path => save w d path r
    | none => r.done

def trace (w : World) (input : String) (json : Bool) (o : Options) : Ended :=
  withDecoded w input o fun d r =>
    (r.print (if json then eventObjects d else eventLines d)).done

/-- Writes the sample capture and checks that it decodes. -/
def demo (w : World) (path : String) : Ended :=
  match w.writeFault? path with
  | some detail => Record.blank.fail (.io detail)
  | none =>
    let capture := Sample.capture
    let r := (Record.blank.write path (.octets capture)).log [.wrote capture.length path]
    let outcome := decodeWithSink .standard .log capture
    let r := r.log (shownNotices outcome.journal)
    match outcome.result with
    | .ok decoded => (r.log (describe decoded .generic)).done
    | .error failure => r.fail (.decode failure.fault)

/-- A number below 65536 with an optional plus sign. -/
def isPort (text : String) : Bool :=
  match size? text with
  | some n => n < 65536
  | none => false

/-- What is wrong with the form of an address to listen at. -/
def addressFault? (address : String) : Option String :=
  let reversed := address.toList.reverse
  if reversed.contains ':' then
    let port := (reversed.takeWhile (· != ':')).reverse
    if isPort (String.ofList port) then none else some "invalid port value"
  else some "invalid socket address"

def modelLabel : Model → String
  | .generic => "Generic"
  | .pt9700 => "Pt9700"
  | .ql500 => "Ql500"
  | .ql1060 => "Ql1060"

def serve (w : World) (address : String) (maxBodyMb : Nat) (o : Options) : Ended :=
  let detail := (addressFault? address).getD (w.listenFault address)
  (Record.blank.log [.serverStarting, .listening address,
    .serverLimits (maxBodyMb * 1024 * 1024) (modelLabel o.model)]).fail
    (.server ("Failed to bind to " ++ address ++ ": " ++ detail))

def invoke (w : World) : Invocation → Ended
  | .render input png o => render w input png o
  | .trace input json o => trace w input json o
  | .demo path => demo w path
  | .serve address maxBodyMb o => serve w address maxBodyMb o

def Ended.status (e : Ended) : Nat := if e.error.isSome then 1 else 0

def Refusal.status : Refusal → Nat
  | .usage => 2
  | .help | .version => 0

def versionLine : String := "ptdecode 0.1.0"

def helpLines : List String := [
  "Usage: ptdecode <COMMAND>",
  "",
  "Commands:",
  "  render  Decode a capture into an image",
  "  trace   Print the trace of a capture",
  "  demo    Write a sample capture",
  "  serve   Run the decode server",
  "  help    Print this message"]

def Refusal.lines : Refusal → List String
  | .version => [versionLine]
  | .usage | .help => helpLines

end LabelStream.CommandLine
