import Tint.Picture
import Tint.Png.Inflate
import Tint.Png.Scanline

/-!
# Reading picture files

From the bytes of a picture file to a picture. Colors of a palette are looked up, gray of
fewer than eight bits is stretched to a byte, and a color that is declared transparent
becomes alpha; all other samples are kept.

## The model

* `Sheet` is what the chunks of a file say together.
* `Sheet.value` is a sample of the picture that the file holds.
* `decode?` reads a whole file.
-/

namespace Tint.Png

/-- What the chunks of a picture file say. -/
structure Sheet where
  /-- The header. -/
  header : Header
  /-- The palette, three bytes a color. -/
  palette : ByteArray
  /-- What is said of transparency, if anything. -/
  transparent : Option ByteArray
  /-- The rows of the passes. -/
  grids : List (Pass × Grid)

namespace Sheet

/-- The bytes of the first chunk with a name. -/
def body? (chunks : List Chunk) (name : String) : Option ByteArray :=
  (chunks.find? (·.name = name)).map Chunk.body

/-- The bytes of all chunks with a name. -/
def bodies (chunks : List Chunk) (name : String) : ByteArray :=
  chunks.foldl (fun bytes c => if c.name = name then bytes ++ c.body else bytes) ByteArray.empty

/-- What chunks say. The first of them is the header, and a palette has to be there if the
samples are places in it. -/
def ofChunks? (chunks : List Chunk) : Option Sheet := do
  let first ← chunks.head?
  if first.name ≠ Header.chunkName then none
  let header ← Header.decode? first.body
  let palette := body? chunks "PLTE"
  if header.meaning = .palette && palette.isNone then none
  let data ← inflateWrapped (bodies chunks "IDAT")
  let grids ← readGrids header data (Pass.ofHeader header) 0
  let transparent :=
    if header.meaning = .grayAlpha || header.meaning = .colorAlpha then none
    else body? chunks "tRNS"
  return { header, palette := palette.getD ByteArray.empty, transparent, grids }

/-- The samples of a pixel of the picture. -/
def layout (s : Sheet) : PictureLayout :=
  match s.header.meaning, s.header.bits == 16, s.transparent.isSome with
  | .palette, _, clear => if clear then .rgba8 else .rgb8
  | .gray, wide, clear =>
    if wide then (if clear then .lumaA16 else .luma16) else if clear then .lumaA8 else .luma8
  | .grayAlpha, wide, _ => if wide then .lumaA16 else .lumaA8
  | .color, wide, clear =>
    if wide then (if clear then .rgba16 else .rgb16) else if clear then .rgba8 else .rgb8
  | .colorAlpha, wide, _ => if wide then .rgba16 else .rgba8

/-- A sample of the file. -/
def written (s : Sheet) (x y channel : Nat) : Nat := sampleAt s.header s.grids x y channel

/-- The greatest value of a sample of the file. -/
def full (s : Sheet) : Nat := 1 <<< s.header.bits - 1

/-- The pixel has the color that is declared transparent. -/
def isClear (s : Sheet) (color : ByteArray) (x y : Nat) : Bool :=
  (List.range s.header.meaning.samples).all fun channel =>
    number? color (2 * channel) 2 = some (s.written x y channel)

/-- The alpha of a pixel whose file has no sample for it. -/
def alpha (s : Sheet) (x y : Nat) : Nat :=
  match s.header.meaning, s.transparent with
  | .palette, some bytes => (bytes[s.written x y 0]?).elim 255 UInt8.toNat
  | _, some color => if s.isClear color x y then 0 else if s.header.bits = 16 then s.full else 255
  | _, none => 255

/-- A sample of the picture. -/
def value (s : Sheet) (x y channel : Nat) : Nat :=
  match s.header.meaning with
  | .palette =>
    if channel = 3 then s.alpha x y
    else (s.palette[3 * s.written x y 0 + channel]?).elim 0 UInt8.toNat
  | .gray =>
    if channel = 1 then s.alpha x y
    else if s.header.bits < 8 then s.written x y 0 * 255 / s.full
    else s.written x y 0
  | .color => if channel = 3 then s.alpha x y else s.written x y channel
  | .grayAlpha | .colorAlpha => s.written x y channel

/-- The picture. -/
def toPicture (s : Sheet) : Picture where
  layout := s.layout
  extent := s.header.extent
  samples := Array.ofFn fun (i : Fin (s.header.extent.area * s.layout.samples)) =>
    let pixel := i.val / s.layout.samples
    let width := s.header.extent.width
    s.layout.depth.sampleOfNat
      (s.value (pixel % width) (pixel / width) (i.val % s.layout.samples))
  size_eq := Array.size_ofFn

end Sheet

/-- The bytes begin like a picture file. -/
def isSigned (bytes : ByteArray) : Bool :=
  (bytes.extract 0 signature.size).data = signature.data

/-- The picture in the bytes of a picture file. Damaged files have none. -/
def decode? (bytes : ByteArray) : Option Picture :=
  if isSigned bytes then (Sheet.ofChunks? (chunksOf bytes)).map Sheet.toPicture else none

end Tint.Png
