import LabelStream.Image
import LabelStream.PathName
import LabelStream.Text.Quoted

/-! Image files: the formats that a path can name by its extension, and which grey images each of them
can hold. -/
namespace LabelStream

inductive ImageFormat where
  | avif
  | jpeg
  | png
  | gif
  | webP
  | tiff
  | tga
  | dds
  | bmp
  | ico
  | hdr
  | openExr
  | pnm
  | farbfeld
  | qoi
  deriving Repr, DecidableEq

namespace ImageFormat

def name : ImageFormat → String
  | avif => "Avif"
  | jpeg => "Jpeg"
  | png => "Png"
  | gif => "Gif"
  | webP => "WebP"
  | tiff => "Tiff"
  | tga => "Tga"
  | dds => "Dds"
  | bmp => "Bmp"
  | ico => "Ico"
  | hdr => "Hdr"
  | openExr => "OpenExr"
  | pnm => "Pnm"
  | farbfeld => "Farbfeld"
  | qoi => "Qoi"

/-- The format that an extension stands for, its letters in either case. -/
def ofExtension? (extension : String) : Option ImageFormat :=
  match String.ofList (extension.toList.map Char.toLower) with
  | "avif" => some avif
  | "jpg" | "jpeg" | "jfif" => some jpeg
  | "png" | "apng" => some png
  | "gif" => some gif
  | "webp" => some webP
  | "tif" | "tiff" => some tiff
  | "tga" => some tga
  | "dds" => some dds
  | "bmp" => some bmp
  | "ico" => some ico
  | "hdr" => some hdr
  | "exr" => some openExr
  | "pbm" | "pam" | "ppm" | "pgm" | "pnm" => some pnm
  | "ff" => some farbfeld
  | "qoi" => some qoi
  | _ => none

end ImageFormat

inductive FormatFault where
  /-- The format holds no images of eight-bit greys. -/
  | greys (format : ImageFormat)
  /-- Files of the format are never written. -/
  | unwritten (format : ImageFormat)
  /-- The size is outside what the format can say. -/
  | dimensions
  | jpegDimensions (width height : Nat)
  | avifDimensions
  | webPDimensions
  | tgaWidth (width : Nat)
  | tgaHeight (height : Nat)
  | icoWidth (width : Nat)
  | icoHeight (height : Nat)
  deriving Repr, DecidableEq

namespace FormatFault

/-- What is wrong with one side of an icon. -/
def iconText (side : String) (length : Nat) : String :=
  "The parameter is malformed: the image " ++ side ++ " must be " ++ Text.inBackticks "1..=256" ++
    ", instead " ++ side ++ " " ++ toString length ++ " was provided"

def message : FormatFault → String
  | greys format =>
    "The encoder or decoder for " ++ format.name ++ " does not support the color type " ++
      Text.inBackticks "L8"
  | unwritten format => "The image format " ++ Text.inBackticks format.name ++ " is not supported"
  | dimensions => "The Image's dimensions are either too small or too large"
  | jpegDimensions width height =>
    "Format error encoding Jpeg:\nInvalid image size (" ++ toString width ++ " x " ++
      toString height ++ ") to encode as JPEG: width and height must be >= 1 and <= 65535"
  | avifDimensions => "Format error encoding Avif:\nInvalid dimensions"
  | webPDimensions => "Format error encoding WebP:\nInvalid dimensions"
  | tgaWidth width => "Format error encoding Tga:\nInvalid TGA width: " ++ toString width
  | tgaHeight height => "Format error encoding Tga:\nInvalid TGA height: " ++ toString height
  | icoWidth width => iconText "width" width
  | icoHeight height => iconText "height" height

end FormatFault

namespace ImageFormat

def fault? (format : ImageFormat) (width height : Nat) : Option FormatFault :=
  match format with
  | png | bmp | pnm | tiff => none
  | avif => if 65535 < width ∨ 65535 < height then some .avifDimensions else none
  | jpeg => if 65535 < width ∨ 65535 < height then some (.jpegDimensions width height) else none
  | gif => some (if 65535 < width ∨ 65535 < height then .dimensions else .greys gif)
  | webP => if 16384 < width ∨ 16384 < height then some .webPDimensions else none
  | tga =>
    if 65535 < width then some (.tgaWidth width)
    else if 65535 < height then some (.tgaHeight height)
    else none
  | ico =>
    if width < 1 ∨ 256 < width then some (.icoWidth width)
    else if height < 1 ∨ 256 < height then some (.icoHeight height)
    else none
  | dds => some (.unwritten dds)
  | hdr | openExr | farbfeld | qoi => some (.greys format)

end ImageFormat

def saveFailure (path detail : String) : ExportError :=
  .encoding ("Failed to save " ++ path ++ ": " ++ detail)

def formatOfPath (path : String) : Except ExportError ImageFormat :=
  match PathName.extension? path with
  | none => .error (saveFailure path "The image format could not be determined")
  | some extension =>
    match ImageFormat.ofExtension? extension with
    | some format => .ok format
    | none =>
      .error (saveFailure path
        ("The file extension " ++ Text.inBackticks ("." ++ Text.quoted extension) ++
          " was not recognized as an image format"))

end LabelStream
