import Tint.Formats.Anymap
import Tint.Formats.Deep
import Tint.Formats.Farbfeld
import Tint.Formats.Gif
import Tint.Formats.Icon
import Tint.Formats.Qoi
import Tint.Formats.Radiance
import Tint.Formats.Surface
import Tint.Formats.Tagged
import Tint.Formats.Targa
import Tint.Formats.Webp

/-!
# Reading pictures of all formats

The bytes of a file read as a picture of a format. Of some formats only the beginning is read
here, and the rest by the readers of other libraries. Video frames are not supported.
-/

namespace Tint

/-- A picture that there is memory for. -/
def Reading.held (p : Picture) : Reading Picture := do
  Reading.checkMemory p.extent p.layout
  return p

/-- The picture in the bytes of a picture without loss. Damage behind the signature is not told
apart. -/
def losslessPicture : Reading Picture := do
  let bytes ← read
  match Png.decode? bytes with
  | some p => Reading.held p
  | none =>
    if bytes.size < 4 then throw .ended
    else if Png.isSigned bytes then throw (.malformed .png ["Damaged file."])
    else throw (.malformed .png ["Invalid PNG signature."])

/-- A photograph, told by its first two bytes. -/
def photograph (foreign : Foreign) : Reading Picture := do
  let bytes ← read
  if bytes.size < 2 then
    throw (.malformed .jpeg ["I/O errors Not enough bytes, expected 2 but found " ++
      toString bytes.size ++ "\n"])
  let mark ← Reading.high 2
  if mark ≠ 0xFFD8 then
    let digits := String.ofList ((Nat.toDigits 16 mark).map Char.toUpper)
    throw (.malformed .jpeg ["Error parsing image. Illegal start bytes:" ++ digits])
  Reading.elsewhere foreign .jpeg

namespace PictureFormat

/-- A reader of a picture of a format. -/
def reading (foreign : Foreign) (f : PictureFormat) : Reading Picture :=
  match f with
  | avif => throw (.unsupported .avif)
  | bmp => Bitmap.picture
  | dds => Surface.picture
  | exr => Deep.picture foreign
  | farbfeld => Farbfeld.picture
  | gif => Gif.picture
  | hdr => Radiance.picture
  | ico => Icon.picture
  | jpeg => photograph foreign
  | png => losslessPicture
  | pnm => Anymap.picture
  | qoi => Qoi.picture
  | tga => Targa.picture
  | tiff => Tagged.picture foreign
  | webp => Webp.picture foreign

/-- The picture in the bytes of a file of a format. -/
def decode (foreign : Foreign) (f : PictureFormat) (bytes : ByteArray) : Except Defect Picture :=
  (f.reading foreign).answer bytes

/-- The defect of a file of a format that the file system refuses to read. -/
def refusal (f : PictureFormat) (text : String) : Defect :=
  match f with
  | avif => .unsupported .avif
  | exr => Deep.broken text
  | farbfeld => Farbfeld.broken text
  | qoi => Qoi.refusal text
  | _ => .refused text

end PictureFormat

end Tint
