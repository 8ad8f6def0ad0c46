/-!
# Picture formats

The formats that a picture file may have, told by the extension of its path in letters of
either case.
-/

namespace Tint

/-- A format of picture files. -/
inductive PictureFormat where
  /-- Video frames, as a still picture. -/
  | avif
  /-- Bitmaps. -/
  | bmp
  /-- Texture surfaces. -/
  | dds
  /-- Deep pictures of several parts. -/
  | exr
  /-- Plain pictures of 16 bits a sample. -/
  | farbfeld
  /-- Animations of a palette. -/
  | gif
  /-- Pictures of great range. -/
  | hdr
  /-- Icons. -/
  | ico
  /-- Photographs. -/
  | jpeg
  /-- Pictures without loss. -/
  | png
  /-- Portable maps. -/
  | pnm
  /-- Pictures that are fast to write. -/
  | qoi
  /-- Pictures of a frame buffer. -/
  | tga
  /-- Pictures with tags. -/
  | tiff
  /-- Pictures of the web. -/
  | webp
deriving DecidableEq, Repr

namespace PictureFormat

/-- The name of a format. -/
def name : PictureFormat → String
  | avif => "Avif"
  | bmp => "Bmp"
  | dds => "Dds"
  | exr => "OpenExr"
  | farbfeld => "Farbfeld"
  | gif => "Gif"
  | hdr => "Hdr"
  | ico => "Ico"
  | jpeg => "Jpeg"
  | png => "Png"
  | pnm => "Pnm"
  | qoi => "Qoi"
  | tga => "Tga"
  | tiff => "Tiff"
  | webp => "WebP"

/-- The extensions of each format, in small letters. -/
def extensions : List (PictureFormat × List String) :=
  [(avif, ["avif"]), (bmp, ["bmp"]), (dds, ["dds"]), (exr, ["exr"]), (farbfeld, ["ff"]),
   (gif, ["gif"]), (hdr, ["hdr"]), (ico, ["ico"]), (jpeg, ["jpg", "jpeg", "jfif"]),
   (png, ["png", "apng"]), (pnm, ["pbm", "pam", "ppm", "pgm", "pnm"]), (qoi, ["qoi"]),
   (tga, ["tga"]), (tiff, ["tif", "tiff"]), (webp, ["webp"])]

/-- The format with an extension, in letters of either case. -/
def ofExtension? (extension : String) : Option PictureFormat :=
  let small := String.ofList (extension.toList.map Char.toLower)
  (extensions.find? fun (_, names) => names.contains small).map (·.1)

end PictureFormat

end Tint
