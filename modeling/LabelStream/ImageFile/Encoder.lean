import LabelStream.ImageFile
import LabelStream.ImageFile.Jpeg
import LabelStream.ImageFile.Plain
import LabelStream.ImageFile.Png
import LabelStream.ImageFile.Targa
import LabelStream.ImageFile.WebP

/-! The bytes of an image file in each format that is written here. -/
namespace LabelStream.ImageFile

def encode? (format : ImageFormat) (image : GrayImage) : Option ByteArray :=
  match format with
  | .png => some (Png.encode image)
  | .bmp => some (Plain.bmp image)
  | .pnm => some (Plain.pnm image)
  | .tiff => some (Plain.tiff image)
  | .tga => some (Targa.encode image)
  | .webP => some (WebP.encode image)
  | .ico => some (Png.encodeIcon image)
  | .jpeg => some (Jpeg.encode image)
  | .avif | .gif | .dds | .hdr | .openExr | .farbfeld | .qoi => none

end LabelStream.ImageFile
