import LabelStream.Image

/-! Grey images as Targa files. The pixels are run-length coded row by row; a packet may go on from one
row to the next. -/
namespace LabelStream.ImageFile.Targa

/-- The most pixels that one packet stands for. -/
def longestPacket : Nat := 128

inductive Packet where
  /-- Pixels one by one. -/
  | plain (pixels : Octets)
  | repeated (count : Nat) (pixel : UInt8)
  deriving Repr, DecidableEq

namespace Packet

def pixels : Packet → Octets
  | plain pixels => pixels
  | repeated count pixel => List.replicate count pixel

/-- The packet as it is written: its count less one, marked if it repeats, then its pixels. -/
def octets : Packet → Octets
  | plain pixels => UInt8.ofNat (pixels.length - 1) :: pixels
  | repeated count pixel => [UInt8.ofNat (127 + count), pixel]

end Packet

inductive Held where
  | nothing
  /-- Pixels with no two alike in a row, the last one first. -/
  | plain (last : UInt8) (before : Octets)
  | repeated (count : Nat) (pixel : UInt8)
  deriving Repr, DecidableEq

namespace Held

def packets : Held → List Packet
  | nothing => []
  | plain last before => [.plain (last :: before).reverse]
  | repeated count pixel => [.repeated count pixel]

/-- Adds a pixel that fits the packet or begins the next one. A first pixel counts as repeated, and a
run begins at its second pixel: the first one stays in a packet of plain pixels. -/
def add (pixel : UInt8) : Held → List Packet × Held
  | nothing => ([], repeated 1 pixel)
  | repeated count value =>
    if pixel = value then ([], repeated (count + 1) value)
    else ([.repeated count value], plain pixel [])
  | plain last before =>
    if pixel = last then ((plain last before).packets, repeated 1 pixel)
    else ([], plain pixel (last :: before))

def count : Held → Nat
  | nothing => 0
  | plain _ before => before.length + 1
  | repeated count _ => count

end Held

/-- The packet that is being filled, and the octets of those that are full. -/
structure Writer where
  held : Held
  out : ByteArray

namespace Writer

def write (packets : List Packet) (out : ByteArray) : ByteArray :=
  packets.foldl (fun out packet => packet.octets.foldl ByteArray.push out) out

/-- Takes a pixel. A packet of full length is written at once. -/
def take : Writer → UInt8 → Writer
  | ⟨held, out⟩, pixel =>
    let (packets, held) := held.add pixel
    let out := write packets out
    if held.count = longestPacket then ⟨.nothing, write held.packets out⟩ else ⟨held, out⟩

def finish (w : Writer) : ByteArray := write w.held.packets w.out

end Writer

/-- A run-length coded grey image, the top row first. -/
def header (image : GrayImage) : Octets :=
  [0, 0, 11, 0, 0, 0, 0, 0, 0, 0, 0, 0] ++ pairOctets image.width ++ pairOctets image.height ++ [8, 0x20]

def encode (image : GrayImage) : ByteArray :=
  let start := (header image).foldl ByteArray.push .empty
  (image.foldPixels Writer.take ⟨.nothing, start⟩).finish

end LabelStream.ImageFile.Targa
