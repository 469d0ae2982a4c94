import LabelStream.Options
import LabelStream.Text.Percent
import LabelStream.Text.Utf8

/-! Query strings of requests and what they choose about a decode. -/
namespace LabelStream.Http

/-- Undoes the encoding of forms: a plus is a space, and all else is percent encoded. -/
def unescape (octets : Octets) : Octets :=
  Text.Percent.decode (octets.map fun b => if b = 0x2B then 0x20 else b)

def formText (part : List Char) : String :=
  Text.Utf8.decodeLossy (unescape (String.ofList part).toUTF8.toList)

/-- The names and values of a query string in order. Empty parts are skipped; a part without an equals
sign has an empty value. -/
def formPairs (query : String) : List (String × String) :=
  let parts := (query.toList.splitOn '&').filter (!·.isEmpty)
  parts.map fun part =>
    (formText (part.takeWhile (· != '=')), formText ((part.dropWhile (· != '=')).drop 1))

/-- The form in which a downloaded capture is answered. -/
inductive Format where
  | png
  | json
  deriving Repr, DecidableEq

structure Query where
  model : Option String
  filler : Option Bool
  lenient : Option Bool
  compressed : Option Bool
  trace : Option Bool
  url : Option String
  format : Option Format
  deriving Repr, DecidableEq

namespace Query

def empty : Query := ⟨none, none, none, none, none, none, none⟩

def flag? : String → Option Bool
  | "true" => some true
  | "false" => some false
  | _ => none

def format? : String → Option Format
  | "png" => some .png
  | "json" => some .json
  | _ => none

/-- Fills a place that must be empty. -/
def fill {α : Type} (place : Option α) (value : Option α) : Option (Option α) :=
  match place, value with
  | none, some value => some (some value)
  | _, _ => none

/-- Takes over one pair. Unknown names are passed over; a known one must not come twice. -/
def take (q : Query) : String × String → Option Query
  | ("model", v) => (fill q.model (some v)).map fun x => { q with model := x }
  | ("filler", v) => (fill q.filler (flag? v)).map fun x => { q with filler := x }
  | ("lenient", v) => (fill q.lenient (flag? v)).map fun x => { q with lenient := x }
  | ("compressed", v) => (fill q.compressed (flag? v)).map fun x => { q with compressed := x }
  | ("trace", v) => (fill q.trace (flag? v)).map fun x => { q with trace := x }
  | ("url", v) => (fill q.url (some v)).map fun x => { q with url := x }
  | ("format", v) => (fill q.format (format? v)).map fun x => { q with format := x }
  | _ => some q

def parse? (query : String) : Option Query := (formPairs query).foldlM take empty

/-- The options of a request: what the query says over what is the default. -/
def options (q : Query) (defaults : Options) : Except Model.Unknown Options := do
  let model ← match q.model with
    | some name => Model.parse name
    | none => .ok defaults.model
  return { defaults with
    model := model
    drawFiller := q.filler.getD defaults.drawFiller
    acceptAnyGraphicsMode := q.lenient.getD defaults.acceptAnyGraphicsMode
    compressionHint := q.compressed.getD defaults.compressionHint
    trace := q.trace.getD defaults.trace }

end Query
end LabelStream.Http
