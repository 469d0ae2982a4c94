import LabelStream.Options

/-! The arguments of the command line: subcommands, their options, and the values these take. -/
namespace LabelStream.CommandLine

/-- A number as users write it: digits, with a plus sign if they like, below the limit of sizes. -/
def size? (text : String) : Option Nat :=
  let digits := match text.toList with
    | '+' :: rest => rest
    | rest => rest
  if digits.isEmpty || !digits.all Char.isDigit then none
  else
    let value := digits.foldl (fun n c => n * 10 + (c.toNat - 48)) 0
    if value < sizeLimit then some value else none

/-- An option of a subcommand. A flag has no check; any other option takes one value that passes it. -/
structure Switch where
  name : String
  short : Option Char
  check : Option (String → Bool)

def flag (name : String) : Switch := ⟨name, none, none⟩

def valued (name : String) (check : String → Bool) : Switch := ⟨name, none, some check⟩

def decodeSwitches : List Switch := [
  valued "model" fun v => (Model.ofName? v).isSome,
  flag "no-filler",
  flag "accept-any-graphics-mode",
  flag "compressed",
  valued "batch-size" fun v => (size? v).isSome,
  valued "max-width" fun v => (size? v).isSome,
  valued "max-height" fun v => (size? v).isSome]

/-- What a subcommand takes. `positional` is the check of its one positional argument, if it has one. -/
structure Usage where
  switches : List Switch
  positional : Option (String → Bool)

def renderUsage : Usage :=
  ⟨⟨"png", some 'o', some (· != "")⟩ :: flag "trace" :: decodeSwitches, some fun _ => true⟩

def traceUsage : Usage := ⟨flag "json" :: decodeSwitches, some fun _ => true⟩

def demoUsage : Usage := ⟨[], some (· != "")⟩

def serveUsage : Usage :=
  ⟨valued "listen" (fun _ => true) :: valued "max-body-mb" (fun v => (size? v).isSome) ::
    decodeSwitches, none⟩

/-- Why no command is run. -/
inductive Refusal where
  /-- The arguments make no command. -/
  | usage
  /-- Help was asked for. -/
  | help
  | version
  deriving Repr, DecidableEq

structure Given where
  values : List (String × String)
  positional : Option String

namespace Given

def value? (g : Given) (name : String) : Option String := g.values.lookup name

def has (g : Given) (name : String) : Bool := (g.value? name).isSome

end Given

/-- Takes over a flag or a value, unless it was given before or does not fit. -/
def giveSwitch (g : Given) (s : Switch) (value : Option String) : Except Refusal Given :=
  if g.has s.name then .error .usage
  else
    match s.check, value with
    | none, none => .ok { g with values := (s.name, "") :: g.values }
    | some check, some value =>
      if check value then .ok { g with values := (s.name, value) :: g.values } else .error .usage
    | _, _ => .error .usage

def givePositional (u : Usage) (g : Given) (value : String) : Except Refusal Given :=
  match u.positional, g.positional with
  | some check, none => if check value then .ok { g with positional := some value } else .error .usage
  | _, _ => .error .usage

/-- One argument by its looks. -/
inductive Shape where
  /-- Two hyphens alone: only positional arguments follow. -/
  | escape
  | long (name : String) (value : Option String)
  | short (letter : Char) (value : Option String)
  | plain

def shape (argument : String) : Shape :=
  match argument.toList with
  | ['-', '-'] => .escape
  | '-' :: '-' :: rest =>
    let name := String.ofList (rest.takeWhile (· != '='))
    match rest.dropWhile (· != '=') with
    | [] => .long name none
    | _ :: value => .long name (some (String.ofList value))
  | '-' :: letter :: rest =>
    match rest with
    | [] => .short letter none
    | '=' :: value => .short letter (some (String.ofList value))
    | value => .short letter (some (String.ofList value))
  | _ => .plain

def isValue (argument : String) : Bool :=
  match shape argument with
  | .plain => true
  | .escape | .long _ _ | .short _ _ => false

/-- What one argument of a subcommand leads to. -/
inductive Taken where
  | given (g : Given)
  /-- An option that waits for its value. -/
  | waiting (s : Switch)
  /-- Only positional arguments follow. -/
  | escaped

def takeSwitch (g : Given) (s : Option Switch) (value : Option String) : Except Refusal Taken :=
  match s with
  | none => .error .usage
  | some s =>
    if s.check.isSome && value.isNone then .ok (.waiting s)
    else (giveSwitch g s value).map .given

def takeArgument (u : Usage) (g : Given) (argument : String) : Except Refusal Taken :=
  match shape argument with
  | .escape => .ok .escaped
  | .plain => (givePositional u g argument).map .given
  | .long name value =>
    if name == "help" && value.isNone then .error .help
    else takeSwitch g (u.switches.find? (·.name == name)) value
  | .short letter value =>
    if letter == 'h' then .error .help
    else takeSwitch g (u.switches.find? (·.short == some letter)) value

/-- Reads the arguments of a subcommand from left to right. -/
def collect (u : Usage) (g : Given) : List String → Except Refusal Given
  | [] => .ok g
  | argument :: rest =>
    match takeArgument u g argument with
    | .error e => .error e
    | .ok (.given g) => collect u g rest
    | .ok .escaped => rest.foldlM (givePositional u) g
    | .ok (.waiting s) =>
      match rest with
      | [] => .error .usage
      | value :: rest =>
        if isValue value then
          match giveSwitch g s (some value) with
          | .error e => .error e
          | .ok g => collect u g rest
        else .error .usage

inductive Invocation where
  /-- Decodes a capture into an image file, if one is named. -/
  | render (input : String) (png : Option String) (options : Options)
  /-- Prints the trace of a capture. -/
  | trace (input : String) (json : Bool) (options : Options)
  /-- Writes the sample capture. -/
  | demo (output : String)
  | serve (listen : String) (maxBodyMb : Nat) (options : Options)
  deriving Repr, DecidableEq

namespace Given

def sizeOr (g : Given) (name : String) (standard : Nat) : Nat :=
  ((g.value? name).bind size?).getD standard

/-- The options of a decode. A batch holds at least one command. -/
def options (g : Given) (trace : Bool) : Options where
  compressionHint := g.has "compressed"
  trace := trace
  model := ((g.value? "model").bind Model.ofName?).getD .generic
  drawFiller := !g.has "no-filler"
  acceptAnyGraphicsMode := g.has "accept-any-graphics-mode"
  batchSize := max (g.sizeOr "batch-size" Options.standard.batchSize) 1
  maxWidth := g.sizeOr "max-width" Options.standard.maxWidth
  maxHeight := g.sizeOr "max-height" Options.standard.maxHeight

end Given

def required (g : Given) : Except Refusal String :=
  match g.positional with
  | some value => .ok value
  | none => .error .usage

def noneGiven : Given := ⟨[], none⟩

def subcommands : List String := ["render", "trace", "demo", "serve", "help"]

def parse : List String → Except Refusal Invocation
  | [] => .error .usage
  | "render" :: rest => do
    let g ← collect renderUsage noneGiven rest
    return .render (← required g) (g.value? "png") (g.options (g.has "trace"))
  | "trace" :: rest => do
    let g ← collect traceUsage noneGiven rest
    return .trace (← required g) (g.has "json") (g.options true)
  | "demo" :: rest => do
    let g ← collect demoUsage noneGiven rest
    return .demo (← required g)
  | "serve" :: rest => do
    let g ← collect serveUsage noneGiven rest
    return .serve ((g.value? "listen").getD "127.0.0.1:8080") (g.sizeOr "max-body-mb" 16)
      (g.options false)
  | ["help"] => .error .help
  | ["help", name] => if subcommands.contains name then .error .help else .error .usage
  | argument :: _ =>
    match shape argument with
    | .long "help" none => .error .help
    | .long "version" none => .error .version
    | .short 'h' _ => .error .help
    | .short 'V' _ => .error .version
    | _ => .error .usage

end LabelStream.CommandLine
