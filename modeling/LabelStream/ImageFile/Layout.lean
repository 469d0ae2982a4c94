import LabelStream.Image

/-! How image files lay out numbers and rows of pixels. -/
namespace LabelStream.ImageFile

def bigEndian16 (n : Nat) : Octets := [UInt8.ofNat (n / 256), UInt8.ofNat n]

def bigEndian32 (n : Nat) : Octets := bigEndian16 (n / 65536) ++ bigEndian16 n

def littleEndian16 (n : Nat) : Octets := pairOctets n

def littleEndian32 (n : Nat) : Octets := pairOctets n ++ pairOctets (n / 65536)

def append (out : ByteArray) (octets : Octets) : ByteArray := octets.foldl ByteArray.push out

/-- The rows of an image, each between `lead` and `trail`; `order` says which row comes where. -/
def rows (image : GrayImage) (lead trail : Octets) (out : ByteArray) (order : Nat → Nat) : ByteArray :=
  image.height.fold (fun y _ out =>
    append (image.width.fold (fun x _ out => out.push (image.luma x (order y))) (append out lead))
      trail) out

end LabelStream.ImageFile
