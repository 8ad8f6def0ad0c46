import Tint.Formats.Raster
import Tint.Text.Quoted

/-!
# Pictures of the web

Chunks in a chunk. The beginning of the first one tells the sides of the picture and how its
pixels are kept; the pixels themselves are read elsewhere.
-/

namespace Tint.Webp

/-- The rules of the format are broken. -/
def broken {α : Type} (reason : String) : Reading α := throw (.malformed .webp [reason])

/-- A byte in hexadecimal digits. -/
def hexByte (b : UInt8) : String := String.ofList (Text.hex b.toNat)

/-- Bytes in hexadecimal digits. -/
def hexBytes (bytes : List UInt8) : String :=
  "[" ++ String.intercalate ", " (bytes.map hexByte) ++ "]"

/-- The bytes of text. -/
def letters (text : String) : List UInt8 := text.toUTF8.data.toList

/-- The four letters of the next chunk, and the number of its bytes. -/
def chunk : Reading (List UInt8 × Nat) := do
  let name ← Reading.take 4
  return (name.data.toList, ← Reading.low 4)

/-- A chunk that is not one of those that are known there. -/
def wrongChunk {α : Type} (name : List UInt8) : Reading α :=
  broken ("Invalid Chunk header: " ++ hexBytes name)

/-- There is memory for a picture with alpha or without it. -/
def checkMemory (width height : Nat) (clear : Bool) : Reading Unit := do
  Reading.checkMemory (← Reading.extent width height) (if clear then .rgba8 else .rgb8)

/-- The beginning of a picture with loss. -/
def lossy : Reading Unit := do
  let first ← Reading.low 3
  if first % 2 = 1 then broken "Unsupported feature: Non-keyframe frames"
  let mark ← Reading.take 3
  if mark.data ≠ #[0x9d, 0x01, 0x2a] then
    broken ("Invalid VP8 magic: " ++ hexBytes mark.data.toList)
  let width := (← Reading.low 2) % 16384
  let height := (← Reading.low 2) % 16384
  if width = 0 || height = 0 then broken "Inconsistent image sizes"
  checkMemory width height false

/-- The beginning of a picture without loss. -/
def lossless : Reading Unit := do
  let mark ← Reading.byte
  if mark ≠ 0x2f then broken ("Invalid lossless signature: " ++ hexByte mark)
  let word ← Reading.low 4
  let version := word >>> 29
  if version ≠ 0 then broken ("Invalid lossless version number: " ++ toString version)
  checkMemory ((1 + word) % 16384) ((1 + word >>> 14) % 16384) (word.testBit 28)

/-- The beginning of a picture of several chunks. -/
def several : Reading Unit := do
  Reading.skip 4
  let width := (← Reading.low 3) + 1
  let height := (← Reading.low 3) + 1
  if 4294967295 < width * height then
    broken "Image is too large, either for the platform's pointer size or generally"

/-- A picture of the web. -/
def picture (foreign : Foreign) : Reading Picture := do
  let (outer, _) ← chunk
  if outer ≠ letters "RIFF" then wrongChunk (letters "RIFF")
  let kind ← Reading.take 4
  if kind.data.toList ≠ letters "WEBP" then
    broken ("Invalid WebP signature: " ++ hexBytes kind.data.toList)
  let (name, _) ← chunk
  if name = letters "VP8 " then lossy
  else if name = letters "VP8L" then lossless
  else if name = letters "VP8X" then several
  else wrongChunk name
  Reading.elsewhere foreign .webp

end Tint.Webp
