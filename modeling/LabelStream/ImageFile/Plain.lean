import LabelStream.ImageFile.Layout

/-! Grey images in formats that list their pixels one after another: bitmaps, portable maps and tagged
image files. -/
namespace LabelStream.ImageFile.Plain

/-- A bitmap with a palette of 256 greys, the lowest row first. -/
def bmp (image : GrayImage) : ByteArray :=
  let padding := (4 - image.width % 4) % 4
  let size := (image.width + padding) * image.height
  let offset := 14 + 40 + 1024
  let palette : Octets := (List.range 256).flatMap fun n =>
    [UInt8.ofNat n, UInt8.ofNat n, UInt8.ofNat n, 0]
  let header : Octets := [0x42, 0x4D] ++ littleEndian32 (offset + size) ++ littleEndian32 0 ++
    littleEndian32 offset ++ littleEndian32 40 ++ littleEndian32 image.width ++
    littleEndian32 image.height ++ littleEndian16 1 ++ littleEndian16 8 ++ littleEndian32 0 ++
    littleEndian32 size ++ littleEndian32 0 ++ littleEndian32 0 ++ littleEndian32 256 ++
    littleEndian32 256 ++ palette
  rows image [] (List.replicate padding 0) (append .empty header) fun y => image.height - 1 - y

/-- A portable grey map. -/
def pnm (image : GrayImage) : ByteArray :=
  let header := "P5\n" ++ toString image.width ++ " " ++ toString image.height ++ "\n255\n"
  rows image [] [] header.toUTF8 id

/-- A tag of a tagged image file with one number of four octets. -/
def tag (name value : Nat) : Octets :=
  littleEndian16 name ++ littleEndian16 4 ++ littleEndian32 1 ++ littleEndian32 value

/-- A tagged image file with one strip, which follows the tags. Black is zero. -/
def tiff (image : GrayImage) : ByteArray :=
  let size := image.width * image.height
  let offset := 8 + 2 + 9 * 12 + 4
  let tags : Octets := tag 256 image.width ++ tag 257 image.height ++ tag 258 8 ++ tag 259 1 ++
    tag 262 1 ++ tag 273 offset ++ tag 277 1 ++ tag 278 image.height ++ tag 279 size
  let header : Octets := [0x49, 0x49, 42, 0] ++ littleEndian32 8 ++ littleEndian16 9 ++ tags ++
    littleEndian32 0
  rows image [] [] (append .empty header) id

end LabelStream.ImageFile.Plain
