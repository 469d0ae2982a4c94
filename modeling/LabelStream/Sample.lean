import LabelStream.Command.Builder

/-! A small job of the usual make: a preamble, device settings, compressed raster lines that draw a
frame with a diagonal, and a few blank lines. -/
namespace LabelStream.Sample

def columns : Nat := 120

def strips : Nat := 16

def blankLines : Nat := 4

def preambleLength : Nat := 64

/-- One strip of the drawing: the frame's upper and lower edge and the diagonal, or the frame's side. -/
def strip (column i : Nat) : UInt8 :=
  if column < 2 || columns - 2 ≤ column then 0xFF
  else
    let upper : UInt8 := if i = 0 then 0xC0 else 0
    let lower : UInt8 := if i = strips - 1 then 0x03 else 0
    let y := (2 * column) % (8 * strips)
    let diagonal : UInt8 := if y / 8 = i then UInt8.ofNat (Nat.pow 2 (7 - y % 8)) else 0
    upper ||| lower ||| diagonal

def column (c : Nat) : Octets := (List.range strips).map (strip c)

def capture : Octets :=
  List.replicate preambleLength 0 ++ Builder.reset ++ Builder.setting 0x61 [0x01] ++
    Builder.setting 0x7A [0x86, 0x0A, 0x3E, 0, 0, 0x04, 0, 0, 0, 0] ++
    Builder.setting 0x4D [0x40] ++ Builder.setting 0x64 [0x23, 0x00] ++
    Builder.setCompression true ++
    (List.range columns).flatMap (fun c => Builder.rasterLineCompressed (column c)) ++
    (List.replicate blankLines Builder.blankLine).flatten ++ Builder.printFeed

end LabelStream.Sample
