import LabelStream.ImageFile.Layout

/-! Grey images as portable network graphics, stored without compression, and as the only picture of an
icon. -/
namespace LabelStream.ImageFile.Png

/-- One division step of the cyclic redundancy check, bit by bit. -/
def crcBits : Nat → UInt32 → UInt32
  | 0, crc => crc
  | n + 1, crc => crcBits n (if crc % 2 = 1 then (crc / 2) ^^^ 0xEDB88320 else crc / 2)

/-- The check value of a chunk. -/
def crc (bytes : ByteArray) : UInt32 :=
  (bytes.foldl (fun crc b => crcBits 8 (crc ^^^ b.toUInt32)) 0xFFFFFFFF) ^^^ 0xFFFFFFFF

/-- The check value of a deflated stream. -/
def adler (bytes : ByteArray) : Nat :=
  let (a, b) := bytes.foldl (fun (a, b) v =>
    let a := (a + v.toNat) % 65521
    (a, (b + a) % 65521)) (1, 0)
  b * 65536 + a

/-- Stored blocks of at most 65535 bytes, from `start` on; `blocks` of them are left. -/
def storedBlocks (bytes : ByteArray) (start : Nat) : Nat → ByteArray → ByteArray
  | 0, out => out
  | n + 1, out =>
    let length := min 65535 (bytes.size - start)
    let header := (if n = 0 then 1 else 0) :: (littleEndian16 length ++ littleEndian16 (65535 - length))
    let out := append out header
    storedBlocks bytes (start + length) n (out ++ bytes.extract start (start + length))

def stored (bytes : ByteArray) : ByteArray :=
  let blocks := max 1 ((bytes.size + 65534) / 65535)
  append (storedBlocks bytes 0 blocks (append .empty [0x78, 0x01])) (bigEndian32 (adler bytes))

def chunk (name : String) (content : ByteArray) (out : ByteArray) : ByteArray :=
  let body := name.toUTF8 ++ content
  append (append out (bigEndian32 content.size) ++ body) (bigEndian32 (crc body).toNat)

def encode (image : GrayImage) : ByteArray :=
  let header := bigEndian32 image.width ++ bigEndian32 image.height ++ [8, 0, 0, 0, 0]
  let signature : Octets := [0x89, 0x50, 0x4E, 0x47, 0x0D, 0x0A, 0x1A, 0x0A]
  chunk "IEND" .empty
    (chunk "IDAT" (stored (rows image [0] [] .empty id))
      (chunk "IHDR" (append .empty header) (append .empty signature)))

/-- An icon with one picture. A side of 256 is written as zero. -/
def encodeIcon (image : GrayImage) : ByteArray :=
  let picture := encode image
  let directory : Octets := littleEndian16 0 ++ littleEndian16 1 ++ littleEndian16 1 ++
    [UInt8.ofNat image.width, UInt8.ofNat image.height, 0, 0] ++ littleEndian16 0 ++
    littleEndian16 8 ++ littleEndian32 picture.size ++ littleEndian32 22
  append .empty directory ++ picture

end LabelStream.ImageFile.Png
