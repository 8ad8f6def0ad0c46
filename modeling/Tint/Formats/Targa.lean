import Tint.Formats.Raster

/-!
# Pictures of a frame buffer

A header, a text that does not matter, a palette, and the pixels as they are or in runs. The
first row may be the lowest, and the first pixel of a row may be the last.

## The model

* `Header` is what a header says, `Shape` how the bytes of a pixel become samples.
* `Header.source` tells which pixel of the file is at a place in the picture.
-/

namespace Tint.Targa

/-- The rules of the format are broken. -/
def broken {α : Type} (reason : String) : Reading α := throw (.malformed .tga [reason])

/-- A header. -/
structure Header where
  /-- The number of bytes of the text. -/
  textBytes : Nat
  /-- There is a palette. -/
  paletteKind : Nat
  /-- The kind of the picture. -/
  kind : Nat
  /-- The number of the first color of the palette. -/
  firstColor : Nat
  /-- The number of colors of the palette. -/
  colors : Nat
  /-- The number of bits of a color of the palette. -/
  colorBits : Nat
  /-- The width. -/
  width : Nat
  /-- The height. -/
  height : Nat
  /-- The number of bits of a pixel. -/
  pixelBits : Nat
  /-- The number of bits of alpha, and the order of rows and pixels. -/
  description : Nat

/-- The header. -/
def header : Reading Header := do
  let textBytes ← Reading.low 1
  let paletteKind ← Reading.low 1
  let kind ← Reading.low 1
  let firstColor ← Reading.low 2
  let colors ← Reading.low 2
  let colorBits ← Reading.low 1
  Reading.skip 4
  let width ← Reading.low 2
  let height ← Reading.low 2
  let pixelBits ← Reading.low 1
  return { textBytes, paletteKind, kind, firstColor, colors, colorBits, width, height, pixelBits,
           description := ← Reading.low 1 }

/-- How the bytes of a pixel become samples. -/
inductive Shape where
  /-- Each byte is a sample. -/
  | plain (layout : PictureLayout)
  /-- Two bytes have five bits of each color. -/
  | fives

/-- The layout of the picture. -/
def Shape.layout : Shape → PictureLayout
  | plain l => l
  | fives => .rgb8

namespace Header

/-- Pixels are places in the palette. -/
def isPalette (h : Header) : Bool := h.kind = 1 || h.kind = 9

/-- Pixels have colors. -/
def isColor (h : Header) : Bool := h.isPalette || h.kind = 2 || h.kind = 10

/-- Pixels are in runs. -/
def isRun (h : Header) : Bool := h.kind = 9 || h.kind = 10 || h.kind = 11

/-- The number of bytes of a pixel. -/
def pixelBytes (h : Header) : Nat := (h.pixelBits + 7) / 8

/-- The number of bytes of a color of the palette. -/
def colorBytes (h : Header) : Nat := (h.colorBits + 7) / 8

/-- The first row is the lowest. -/
def isUpward (h : Header) : Bool := h.description / 32 % 2 = 0

/-- The first pixel of a row is the last. -/
def isLeftward (h : Header) : Bool := h.description / 16 % 2 = 1

/-- A header has to make sense. -/
def check (h : Header) : Reading Unit := do
  if h.width = 0 || h.height = 0 then broken "Invalid empty image"
  if h.isPalette then
    if h.paletteKind ≠ 1 then broken "Color map type must be 1 for color mapped images"
    if h.pixelBits ≠ 8 && h.pixelBits ≠ 16 then broken "Color map must use 1 or 2 byte indexes"
    if h.colorBits < h.pixelBits then
      throw (.feature .tga "Indices larger than pixel values")

/-- How the bytes of a pixel become samples. -/
def shape (h : Header) : Reading Shape := do
  let all := if h.isPalette then h.colorBits else h.pixelBits
  let alpha := h.description % 16
  if all < alpha then broken "More alpha bits than pixel bits"
  match alpha, all - alpha, h.isColor with
  | 0, 32, true => return .plain .rgba8
  | 8, 24, true => return .plain .rgba8
  | 0, 24, true => return .plain .rgb8
  | 1, 15, true => return .fives
  | 0, 15, true => return .fives
  | 0, 16, true => return .fives
  | 8, 8, false => return .plain .lumaA8
  | 0, 8, false => return .plain .luma8
  | 8, 0, false => return .plain .luma8
  | _, _, _ => throw (.unknownPixels .tga h.pixelBits)

end Header

/-- The bytes of pixels in runs: a byte tells how many pixels follow, or how often the next
one is repeated. What a run has too much is left out. A run takes a byte and more, so the
number of bytes that are left is fuel enough. -/
def runsFrom (size pixelBytes : Nat) (out : ByteArray) : Nat → Reading ByteArray
  | 0 => throw .unfilled
  | fuel + 1 => do
    if size ≤ out.size then return out
    let code := (← Reading.byte).toNat
    let room := size - out.size
    if code < 128 then
      runsFrom size pixelBytes (out ++ (← Reading.take (min room ((code + 1) * pixelBytes)))) fuel
    else
      let one ← Reading.take pixelBytes
      let copies := (List.replicate (code - 127) one).foldl (· ++ ·) ByteArray.empty
      runsFrom size pixelBytes (out ++ copies.extract 0 room) fuel

/-- The bytes of the pixels. -/
def pixelData (h : Header) : Reading ByteArray := do
  let size := h.width * h.height * h.pixelBytes
  if h.isRun then runsFrom size h.pixelBytes ByteArray.empty ((← Reading.left) + 1)
  else Reading.take size

/-- A number of five bits stretched to a byte. -/
def stretched (five : Nat) : Nat := (five * 510 + 31) / 62

/-- A sample of a pixel whose bytes begin at a place. Colors have blue first. -/
def Shape.sample (s : Shape) (bytes : ByteArray) (start channel : Nat) : Nat :=
  match s with
  | fives =>
    stretched (Bytes.low bytes start 2 >>> (5 * (2 - channel)) % 32)
  | plain l =>
    if l.samples < 3 || channel = 3 then Bytes.one bytes (start + channel)
    else Bytes.one bytes (start + (2 - channel))

/-- The palette, if there is one. -/
def palette (h : Header) : Reading ByteArray := do
  if h.paletteKind ≠ 1 then return ByteArray.empty
  if h.colorBytes < 2 || 4 < h.colorBytes then
    throw (.feature .tga "Unsupported color map entry size")
  Reading.take (h.colorBytes * h.colors)

/-- The number of a pixel among bytes. -/
def indexAt (h : Header) (bytes : ByteArray) (i : Nat) : Nat :=
  Bytes.low bytes (i * h.pixelBytes) h.pixelBytes

/-- The palette has the color with a number. -/
def hasColor (h : Header) (n : Nat) : Bool := h.firstColor ≤ n && n - h.firstColor < h.colors

/-- Every pixel is a place in the palette. -/
def checkIndices (h : Header) (bytes : ByteArray) : Reading Unit := do
  if h.isPalette && !(List.range (h.width * h.height)).all fun i => hasColor h (indexAt h bytes i)
  then broken "Invalid color map index"

/-- The number of the pixel in the file that is at a place in the picture. -/
def Header.source (h : Header) (i : Nat) : Nat :=
  let row := i / h.width
  let column := i % h.width
  (if h.isUpward then h.height - 1 - row else row) * h.width +
    (if h.isLeftward then h.width - 1 - column else column)

/-- A picture of a frame buffer. -/
def picture : Reading Picture := do
  let h ← header
  h.check
  let shape ← h.shape
  Reading.skip h.textBytes
  let colors ← palette h
  let extent ← Reading.extent h.width h.height
  Reading.checkMemory extent shape.layout
  let bytes ← pixelData h
  checkIndices h bytes
  return Picture.ofNumbers shape.layout extent fun i =>
    let place := h.source (i / shape.layout.samples)
    let channel := i % shape.layout.samples
    if h.isPalette then
      shape.sample colors ((indexAt h bytes place - h.firstColor) * h.colorBytes) channel
    else shape.sample bytes (place * h.pixelBytes) channel

end Tint.Targa
