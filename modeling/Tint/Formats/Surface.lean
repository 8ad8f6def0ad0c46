import Tint.Formats.Raster

/-!
# Texture surfaces

A header, and squares of four by four pixels. A square has two colors and for each pixel a
number that tells which color between the two it has; alpha is kept in one of two ways, or
not at all.

## The model

* `Way` is how squares are kept.
* `Way.channel` gives a channel of a pixel of a square.
-/

namespace Tint.Surface

/-- The rules of the format are broken. -/
def broken {α : Type} (reason : String) : Reading α := throw (.malformed .dds [reason])

/-- A feature of the format is not supported. -/
def missing {α : Type} (text : String) : Reading α := throw (.feature .dds text)

/-- A number in eight hexadecimal digits. -/
def hexWord (n : Nat) : String :=
  let digits := (Nat.toDigits 16 n).map Char.toUpper
  "0x" ++ String.ofList (List.replicate (8 - digits.length) '0' ++ digits)

/-- How squares are kept. -/
inductive Way where
  /-- Colors alone. -/
  | colors
  /-- Alpha of four bits a pixel. -/
  | alphas
  /-- Alpha between two values. -/
  | betweenAlphas
deriving DecidableEq, Repr

namespace Way

/-- The number of bytes of a square. -/
def bytes : Way → Nat
  | colors => 8
  | _ => 16

/-- The layout of the picture. -/
def layout : Way → PictureLayout
  | colors => .rgb8
  | _ => .rgba8

end Way

/-! ### The header -/

/-- The flags of a header that have to be set. -/
def neededFlags : Nat := 0x1007

/-- The flags of a header that may be set. -/
def knownFlags : Nat := 0x8A100F

/-- A header of a later kind tells how squares are kept by a number. -/
def laterWay : Reading Way := do
  let kind ← Reading.low 4
  let sides ← Reading.low 4
  let flags ← Reading.low 4
  let count ← Reading.low 4
  let moreFlags ← Reading.low 4
  if 132 < kind then broken ("Invalid DDS DXGI format: " ++ toString kind)
  if sides < 2 || 4 < sides then broken ("Invalid DDS resource dimension: " ++ toString sides)
  if flags ≠ 0 && flags ≠ 4 then broken ("Invalid DDS DX10 header flags: " ++ hexWord flags)
  if sides = 4 && count ≠ 1 then broken ("Invalid DDS DX10 array size: " ++ toString count)
  if 4 < moreFlags then broken ("Invalid DDS DX10 header flags: " ++ hexWord moreFlags)
  if 70 ≤ kind && kind ≤ 72 then return .colors
  if 73 ≤ kind && kind ≤ 75 then return .alphas
  if 76 ≤ kind && kind ≤ 78 then return .betweenAlphas
  missing ("DDS DXGI Format " ++ toString kind)

/-- How squares are kept, told by four letters. -/
def wayOf (letters : List UInt8) : Reading Way :=
  match String.ofList (letters.map fun b => Char.ofNat b.toNat) with
  | "DXT1" => return .colors
  | "DXT3" => return .alphas
  | "DXT5" => return .betweenAlphas
  | "DX10" => laterWay
  | _ =>
    missing ("DDS FourCC [" ++
      String.intercalate ", " (letters.map fun b => toString b.toNat) ++ "]")

/-- A header. -/
structure Header where
  /-- The width. -/
  width : Nat
  /-- The height. -/
  height : Nat
  /-- The flags of the pixels. -/
  flags : Nat
  /-- The letters that tell how pixels are kept. -/
  letters : List UInt8

/-- The header. -/
def header : Reading Header := do
  let mark ← Reading.take 4
  if mark.data ≠ "DDS ".toUTF8.data then broken "DDS signature not found"
  let size ← Reading.low 4
  if size ≠ 124 then broken ("Invalid DDS header size: " ++ toString size)
  let flags ← Reading.low 4
  if flags &&& neededFlags ≠ neededFlags || flags &&& knownFlags ≠ flags then
    broken ("Invalid DDS header flags: " ++ hexWord flags)
  let height ← Reading.low 4
  let width ← Reading.low 4
  Reading.skip 56
  let pixelSize ← Reading.low 4
  if pixelSize ≠ 32 then broken ("Invalid DDS PixelFormat size: " ++ toString pixelSize)
  let pixelFlags ← Reading.low 4
  let letters ← Reading.take 4
  Reading.skip 40
  return ⟨width, height, pixelFlags, letters.data.toList⟩

/-! ### Squares -/

/-- A channel of a color of sixteen bits. -/
def channelOf (color c : Nat) : Nat :=
  match c with
  | 0 => color / 2048 * 255 / 31
  | 1 => color / 32 % 64 * 255 / 63
  | _ => color % 32 * 255 / 31

/-- A channel of a pixel of a square whose colors begin at a place. The third and the fourth
color are between the two; if squares have colors alone and the first is not the larger
number, the third is halfway and the fourth is black. -/
def colorAt (bytes : ByteArray) (start pixel c : Nat) (alone : Bool) : Nat :=
  let first := Bytes.low bytes start 2
  let second := Bytes.low bytes (start + 2) 2
  let a := channelOf first c
  let b := channelOf second c
  let between := second < first || !alone
  match Bytes.low bytes (start + 4) 4 >>> (2 * pixel) % 4 with
  | 0 => a
  | 1 => b
  | 2 => if between then (2 * a + b + 1) / 3 else (a + b + 1) / 2
  | _ => if between then (a + 2 * b + 1) / 3 else 0

/-- The alpha with a number, between two values. -/
def alphaBetween (a b n : Nat) : Nat :=
  if n = 0 then a
  else if n = 1 then b
  else if b < a then ((8 - n) * a + (n - 1) * b) / 7
  else if n < 6 then ((6 - n) * a + (n - 1) * b) / 5
  else if n = 6 then 0
  else 255

/-- A channel of a pixel of a square. -/
def Way.channel (w : Way) (bytes : ByteArray) (start pixel c : Nat) : Nat :=
  match w with
  | colors => colorAt bytes start pixel c true
  | alphas =>
    if c = 3 then Bytes.low bytes start 8 >>> (4 * pixel) % 16 * 17
    else colorAt bytes (start + 8) pixel c false
  | betweenAlphas =>
    if c = 3 then
      alphaBetween (Bytes.low bytes start 1) (Bytes.low bytes (start + 1) 1)
        (Bytes.low bytes (start + 2) 6 >>> (3 * pixel) % 8)
    else colorAt bytes (start + 8) pixel c false

/-- A texture surface. -/
def picture : Reading Picture := do
  let h ← header
  if !h.flags.testBit 2 then throw (.format "`DDS`")
  let way ← wayOf h.letters
  let extent ← Reading.extent h.width h.height
  Reading.checkCount .dds extent way.layout
  if h.width % 4 ≠ 0 || h.height % 4 ≠ 0 then throw .sides
  Reading.checkMemory extent way.layout
  let rowSquares := h.width / 4
  let bytes ← Reading.take (rowSquares * (h.height / 4) * way.bytes)
  return Picture.ofNumbers way.layout extent fun i =>
    let x := i / way.layout.samples % h.width
    let y := i / way.layout.samples / h.width
    way.channel bytes ((y / 4 * rowSquares + x / 4) * way.bytes) (y % 4 * 4 + x % 4)
      (i % way.layout.samples)

end Tint.Surface
