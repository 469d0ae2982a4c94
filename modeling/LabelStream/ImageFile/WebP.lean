import LabelStream.ImageFile.Layout

/-! Black and white images as lossless WebP files. One bit stands for a pixel. -/
namespace LabelStream.ImageFile.WebP

/-- Bits that fill octets from the low end; `count` of those in `held` are taken. -/
structure Bits where
  held : Nat
  count : Nat
  out : ByteArray

namespace Bits

def none : Bits := ⟨0, 0, .empty⟩

def push : Bits → Bool → Bits
  | ⟨held, count, out⟩, bit =>
    let held := if bit then held + Nat.pow 2 count else held
    if count = 7 then ⟨0, 0, out.push (UInt8.ofNat held)⟩ else ⟨held, count + 1, out⟩

/-- Adds the low bits of a number, the lowest first. -/
def number (width n : Nat) (bits : Bits) : Bits :=
  (List.range width).foldl (fun bits i => bits.push (n.testBit i)) bits

def finish (bits : Bits) : ByteArray :=
  if bits.count = 0 then bits.out else bits.out.push (UInt8.ofNat bits.held)

end Bits

/-- The code of a channel that is the same everywhere. -/
def constant (value : Nat) (bits : Bits) : Bits :=
  if value < 2 then ((bits.number 2 1).number 1 0).number 1 value
  else ((bits.number 2 1).number 1 1).number 8 value

/-- The header of the stream. Green is taken from red and blue, so these are zero; green itself is
either 0 or 255, and no pixel is transparent. -/
def header (image : GrayImage) (bits : Bits) : Bits :=
  let size := ((bits.number 8 0x2F).number 14 (image.width - 1)).number 14 (image.height - 1)
  let plain := ((((size.number 4 0).number 3 5).number 1 0).number 1 0).number 1 0
  let green := ((((plain.number 1 1).number 1 1).number 1 0).number 1 0).number 8 255
  constant 0 (constant 255 (constant 0 (constant 0 green)))

def stream (image : GrayImage) : ByteArray :=
  (image.foldPixels (fun bits luma => bits.push (luma ≠ 0)) (header image .none)).finish

def encode (image : GrayImage) : ByteArray :=
  let stream := stream image
  let padding := stream.size % 2
  append (append .empty ("RIFF".toUTF8.toList ++ littleEndian32 (12 + stream.size + padding) ++
    "WEBPVP8L".toUTF8.toList ++ littleEndian32 stream.size) ++ stream) (List.replicate padding 0)

end LabelStream.ImageFile.WebP
