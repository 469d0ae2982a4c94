import LabelStream.Session

/-! Grey images cut out of a surface: black dots become 0, all else 255. -/
namespace LabelStream

structure GrayImage where
  width : Nat
  height : Nat
  /-- The grey value at column `x` of row `y`. -/
  luma : Nat → Nat → UInt8

inductive ExportError where
  | encoding (detail : String)
  | empty (width height : Nat)
  deriving Repr, DecidableEq

def ExportError.message : ExportError → String
  | encoding detail => "Image encoding error: " ++ detail
  | empty width height =>
    "Nothing to export: image extent is " ++ toString width ++ "x" ++ toString height

namespace Surface

def luma (s : Surface) (x y : Nat) : UInt8 := if s.pixel x y then 0 else 255

/-- The rectangle of the given size at the top left, cut to the bound of the surface. -/
def image (s : Surface) (width height : Nat) : GrayImage :=
  ⟨min width (s.maxWidth % imageSizes), min height (s.maxHeight % imageSizes), s.luma⟩

/-- The image, unless it holds no dot at all. -/
def export? (s : Surface) (width height : Nat) : Except ExportError GrayImage :=
  let image := s.image width height
  if image.width = 0 ∨ image.height = 0 then .error (.empty image.width image.height) else .ok image

end Surface

def Decoded.export? (d : Decoded) : Except ExportError GrayImage := d.surface.export? d.width d.height

namespace GrayImage

def foldPixels {α : Type} (f : α → UInt8 → α) (start : α) (image : GrayImage) : α :=
  image.height.fold (fun y _ acc => image.width.fold (fun x _ acc => f acc (image.luma x y)) acc) start

def pixels (image : GrayImage) : ByteArray := image.foldPixels ByteArray.push .empty

end GrayImage
end LabelStream
