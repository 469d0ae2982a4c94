import LabelStream.Binary32

/-! Printer models and the geometry by which a stream made for one of them is drawn. -/
namespace LabelStream

structure Profile where
  name : String
  /-- Dots per inch. -/
  dpi : Nat
  /-- Strips that a blank line clears. -/
  blankLineStrips : Nat
  /-- Rows that a line feed moves down. -/
  lineFeedDots : Nat
  /-- Rows that a form feed moves down. -/
  formFeedDots : Nat
  deriving Repr, DecidableEq

inductive Model where
  | generic
  | pt9700
  | ql500
  | ql1060
  deriving Repr, DecidableEq

namespace Model

def all : List Model := [generic, pt9700, ql500, ql1060]

def profile : Model → Profile
  | generic => ⟨"Generic P-touch", 180, 48, 24, 8⟩
  | pt9700 => ⟨"Brother PT-9700PC", 360, 48, 24, 8⟩
  | ql500 => ⟨"Brother QL-500", 300, 48, 24, 8⟩
  | ql1060 => ⟨"Brother QL-1060N", 300, 162, 24, 8⟩

/-- The name by which options and reports call the model. -/
def id : Model → String
  | generic => "generic"
  | pt9700 => "pt9700"
  | ql500 => "ql500"
  | ql1060 => "ql1060"

def names : Model → List String
  | generic => ["generic"]
  | pt9700 => ["pt9700", "pt9700pc"]
  | ql500 => ["ql500"]
  | ql1060 => ["ql1060", "ql1060n"]

/-- The model with exactly this identifier. -/
def ofId? (name : String) : Option Model := all.find? (·.id == name)

/-- The model that goes by exactly this name. -/
def ofName? (name : String) : Option Model := all.find? (·.names.contains name)

/-- ASCII letters in lower case, without the separators `-` and `_`. -/
def simplified (name : String) : String :=
  String.ofList ((name.toList.filter fun c => c != '-' && c != '_').map Char.toLower)

structure Unknown where
  name : String
  deriving Repr, DecidableEq

def Unknown.message (e : Unknown) : String :=
  "Unknown model '" ++ e.name ++ "'. Use generic, pt9700, ql500 or ql1060"

/-- Finds a model by name, ignoring case and separators. -/
def parse (name : String) : Except Unknown Model :=
  match ofName? (simplified name) with
  | some model => .ok model
  | none => .error ⟨name⟩

end Model

namespace Profile

/-- Dots per millimetre, with an inch of 25.4 millimetres in single precision. -/
def dotsPerMm (p : Profile) : Binary32 :=
  (Binary32.ofNat p.dpi).div (Binary32.ofRatio 254 10)

def dotsToMm (p : Profile) (dots : Nat) : Binary32 := (Binary32.ofNat dots).div p.dotsPerMm

end Profile
end LabelStream
