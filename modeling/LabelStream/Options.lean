import LabelStream.Printer

/-! What a caller can choose about one decode job. -/
namespace LabelStream

/-- Sizes and counts are below this bound. -/
def sizeLimit : Nat := Nat.pow 2 64

structure Options where
  /-- The caller expects a compressed stream. This changes no drawing, only a warning. -/
  compressionHint : Bool
  /-- Keep the events of the trace in the result. -/
  trace : Bool
  model : Model
  /-- Paint the marker strips beside raster data and around bit images. -/
  drawFiller : Bool
  /-- Read every graphics mode as the 24-dot one. -/
  acceptAnyGraphicsMode : Bool
  /-- Commands handled between two chances to stop. -/
  batchSize : Nat
  maxWidth : Nat
  maxHeight : Nat
  deriving Repr, DecidableEq

namespace Options

def standard : Options where
  compressionHint := false
  trace := false
  model := .generic
  drawFiller := true
  acceptAnyGraphicsMode := false
  batchSize := 11
  maxWidth := 16384
  maxHeight := 8192

def traced : Options := { standard with trace := true }

def profile (o : Options) : Profile := o.model.profile

end Options
end LabelStream
