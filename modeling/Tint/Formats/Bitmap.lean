import Tint.Formats.Raster

/-!
# Bitmaps

A header of one of several sizes, a palette or masks that tell the channels of a pixel, and
rows of pixels, the lowest first unless the height is negative. Places in a palette may be in
runs.

## The model

* `Header` is what a header says; `Kind` is how pixels are kept.
* `Mask` finds a channel among the bits of a pixel and stretches it to a byte.
* `Setup` is all that stands before the pixels; it gives the channels of a pixel by its row in
  the file and its column.
-/

namespace Tint.Bitmap

/-- The rules of the format are broken. -/
def broken {α : Type} (reason : String) : Reading α := throw (.malformed .bmp [reason])

/-- A feature of the format is not supported. -/
def missing {α : Type} (text : String) : Reading α := throw (.feature .bmp text)

/-! ### Headers -/

/-- How pixels are kept. -/
inductive Kind where
  /-- Places in a palette. -/
  | palette
  /-- Five bits of each color. -/
  | fives
  /-- A byte of each color. -/
  | bytes
  /-- A byte of each color, and one more. -/
  | words
  /-- Places in a palette, in runs. -/
  | runs
  /-- Bits that masks tell. -/
  | masks
deriving DecidableEq, Repr

/-- A header. -/
structure Header where
  /-- The width. -/
  width : Nat
  /-- The height. -/
  height : Nat
  /-- The first row is the highest. -/
  downward : Bool
  /-- The number of bits of a pixel. -/
  bits : Nat
  /-- How pixels are kept. -/
  kind : Kind
  /-- The number of colors of the palette, zero for as many as there can be. -/
  colors : Nat
  /-- The number of bytes of a color of the palette. -/
  colorBytes : Nat

/-- The greatest side. -/
def sideLimit : Int := 65535

/-- The number of 32 bits read as one with a sign. -/
def signed (n : Nat) : Int := if n < 2147483648 then n else (n : Int) - 4294967296

/-- The sides have to be above zero. -/
def checkSides (channels width height : Nat) : Reading Unit := do
  if width = 0 || height = 0 then
    missing ("Image dimensions (" ++ toString width ++ "x" ++ toString height ++ " w/" ++
      toString channels ++ " channels) are too large")

/-- The number of planes has to be one. -/
def checkPlanes : Reading Unit := do
  if (← Reading.low 2) ≠ 1 then broken "More than one plane"

/-- The number of bits does not suit the kind of pixels. -/
def wrongBits {α : Type} (kind : String) (bits : Nat) : Reading α :=
  broken ("Invalid channel bit count for " ++ kind ++ ": " ++ toString bits)

/-- The smallest header. -/
def smallHeader (channels : Nat) : Reading Header := do
  let width ← Reading.low 2
  let height ← Reading.low 2
  checkSides channels width height
  checkPlanes
  let bits ← Reading.low 2
  let kind ←
    if bits = 1 || bits = 4 || bits = 8 then pure Kind.palette
    else if bits = 24 then pure Kind.bytes
    else wrongBits "RGB" bits
  return ⟨width, height, false, bits, kind, 0, 3⟩

/-- How pixels with a number of bits are kept, told by the number of a way to shorten them. -/
def kindOf (way bits : Nat) : Reading Kind :=
  match way with
  | 0 =>
    match bits with
    | 1 | 2 | 4 | 8 => return .palette
    | 16 => return .fives
    | 24 => return .bytes
    | 32 => return .words
    | _ => wrongBits "RGB" bits
  | 1 => if bits = 8 then return .runs else wrongBits "RLE8" bits
  | 2 => if bits = 4 then return .runs else wrongBits "RLE4" bits
  | 3 => if bits = 16 || bits = 32 then return .masks else wrongBits "bitfields" bits
  | 4 => missing "JPEG compression"
  | 5 => missing "PNG compression"
  | 11 | 12 | 13 => missing "CMYK format"
  | _ => broken ("Unknown image compression type " ++ toString way)

/-- A header of the usual size, or the beginning of a larger one. -/
def usualHeader (channels : Nat) : Reading Header := do
  let width := signed (← Reading.low 4)
  let height := signed (← Reading.low 4)
  if width < 0 then broken ("Negative width (" ++ toString width ++ ")")
  if sideLimit < width || sideLimit < height then
    broken ("Image too large (one of (" ++ toString width ++ ", " ++ toString height ++
      ") > soft limit of " ++ toString sideLimit ++ ")")
  if height = -2147483648 then broken "Invalid height"
  let downward : Bool := height < 0
  checkSides channels width.natAbs height.natAbs
  checkPlanes
  let bits ← Reading.low 2
  let way ← Reading.low 4
  if downward && way ≠ 0 && way ≠ 3 then
    broken ("Invalid image type " ++ toString way ++ " for top-down image.")
  let kind ← kindOf way bits
  Reading.skip 12
  let colors ← Reading.low 4
  Reading.skip 4
  return ⟨width.natAbs, height.natAbs, downward, bits, kind, colors, 4⟩

/-! ### Masks -/

/-- The bits of a channel: how far they are from the lowest, and how many there are. -/
structure Mask where
  /-- The number of lower bits. -/
  shift : Nat
  /-- The number of bits, at most those of a byte. -/
  length : Nat

/-- The number of bits that are one. -/
def ones (n : Nat) : Nat := ((List.range 32).filter n.testBit).length

/-- The mask in a number: its ones have to be side by side, and to be bits of a pixel. Of more
than eight bits the highest are taken. -/
def maskOf (bits n : Nat) : Reading Mask := do
  if n = 0 then return ⟨0, 0⟩
  let shift := ((List.range 32).takeWhile fun i => !n.testBit i).length
  let length := ((List.range 32).takeWhile fun i => n.testBit (shift + i)).length
  if length ≠ ones n then broken "Non-contiguous bitfield mask"
  if bits < shift + length then broken "Invalid bitfield mask"
  return ⟨shift + (length - 8), min length 8⟩

/-- The channel of a pixel, stretched to a byte. -/
def Mask.channel (m : Mask) (pixel : Nat) : Nat :=
  let full := 1 <<< m.length - 1
  let value := (pixel >>> m.shift) % (full + 1)
  if m.length = 7 then 2 * value + value / 64 else (510 * value + full) / (2 * full)

/-- The masks of red, green, blue and alpha. -/
structure Masks where
  /-- Red. -/
  red : Mask
  /-- Green. -/
  green : Mask
  /-- Blue. -/
  blue : Mask
  /-- Alpha, if there is one. -/
  alpha : Mask

/-- The masks of pixels whose header has none. -/
def Masks.usual (bits : Nat) (clear : Bool) : Masks :=
  if bits = 16 then ⟨⟨10, 5⟩, ⟨5, 5⟩, ⟨0, 5⟩, ⟨0, 0⟩⟩
  else ⟨⟨16, 8⟩, ⟨8, 8⟩, ⟨0, 8⟩, if clear then ⟨24, 8⟩ else ⟨0, 0⟩⟩

/-- A channel of a pixel. -/
def Masks.channel (m : Masks) (pixel c : Nat) : Nat :=
  match c with
  | 0 => m.red.channel pixel
  | 1 => m.green.channel pixel
  | 2 => m.blue.channel pixel
  | _ => if m.alpha.length = 0 then 255 else m.alpha.channel pixel

/-- The masks of a header. Headers of some sizes have one for alpha. -/
def masks (bits : Nat) (withAlpha : Bool) : Reading Masks := do
  let red ← Reading.low 4
  let green ← Reading.low 4
  let blue ← Reading.low 4
  let alpha ← if withAlpha then Reading.low 4 else pure 0
  let m : Masks := ⟨← maskOf bits red, ← maskOf bits green, ← maskOf bits blue,
    ← maskOf bits alpha⟩
  if m.red.length = 0 || m.green.length = 0 || m.blue.length = 0 then
    broken ("Missing " ++ toString bits ++ "-bit bitfield mask")
  return m

/-! ### What stands before the pixels -/

/-- All that stands before the pixels. -/
structure Setup where
  /-- The header. -/
  header : Header
  /-- The place of the pixels. -/
  start : Nat
  /-- The masks. -/
  masks : Masks
  /-- The palette. -/
  palette : ByteArray
  /-- Pixels have alpha. -/
  clear : Bool

/-- The number of bytes of the headers that are known. -/
def headerSizes : List Nat := [12, 40, 52, 56, 108, 124]

/-- The numbers of bytes of the headers behind which three masks stand. -/
def maskSizes : List Nat := [40, 108, 124]

/-- The palette: as many colors as the header says, and 256 of them at most. -/
def palette (h : Header) : Reading ByteArray := do
  if h.kind ≠ .palette && h.kind ≠ .runs then return ByteArray.empty
  let most := 1 <<< h.bits
  if most < h.colors then
    broken ("Palette size " ++ toString h.colors ++
      " exceeds maximum size for BMP with bit count of " ++ toString h.bits)
  Reading.take ((if h.colors = 0 then most else h.colors) * h.colorBytes)

/-- What stands before the pixels. Within an icon there is no file header before it, and
pixels have alpha. -/
def setup (inIcon : Bool) : Reading Setup := do
  let start ←
    if inIcon then pure 0
    else do
      let mark ← Reading.take 2
      if mark.data ≠ #[66, 77] then broken "BMP signature not found"
      Reading.skip 8
      Reading.low 4
  let place ← get
  let size ← Reading.low 4
  if !headerSizes.contains size then
    if size < 12 then broken ("Bitmap header too small (" ++ toString size ++ " bytes)")
    missing ("Unknown bitmap header type (size=" ++ toString size ++ ")")
  let channels := if inIcon then 4 else 3
  let header ← if size = 12 then smallHeader channels else usualHeader channels
  let clear := inIcon && header.kind = .words
  let masks ←
    if header.kind = .masks then masks header.bits (56 ≤ size)
    else pure (Masks.usual header.bits clear)
  let maskBytes := if header.kind = .masks && maskSizes.contains size then 12 else 0
  set (place + size + maskBytes)
  let palette ← palette header
  let here ← get
  return { header, start := if inIcon then here else start, masks, palette,
           clear := inIcon || masks.alpha.length ≠ 0 }

/-! ### Pixels -/

/-- A channel of the color with a number. The palette has blue first, and colors beyond it are
black. -/
def Setup.color (s : Setup) (n c : Nat) : Nat :=
  if c = 3 then 255 else Bytes.one s.palette (n * s.header.colorBytes + (2 - c))

/-- The number of bytes of a row. Rows end at a whole number of four bytes. -/
def Header.rowBytes (h : Header) : Nat := (h.width * h.bits + 31) / 32 * 4

/-- A channel of the pixel in a row of the file and a column. -/
def Setup.channelIn (s : Setup) (bytes : ByteArray) (row column c : Nat) : Nat :=
  let h := s.header
  let first := row * h.rowBytes
  match h.kind with
  | .palette | .runs =>
    let each := 8 / h.bits
    let eight := Bytes.one bytes (first + column / each)
    s.color (eight >>> (8 - h.bits * (column % each + 1)) % (1 <<< h.bits)) c
  | .bytes => if c = 3 then 255 else Bytes.one bytes (first + 3 * column + (2 - c))
  | .fives | .words | .masks =>
    let count := h.bits / 8
    s.masks.channel (Bytes.low bytes (first + count * column) count) c

/-! ### Runs -/

/-- The number that stands for a pixel that is passed over. -/
def blank : Nat := 256

/-- Runs that do not suit the rows. -/
def corrupt {α : Type} : Reading α := broken "Corrupt RLE data"

/-- The numbers in bytes, of which each has one or two. -/
def numbersIn (bits : Nat) (bytes : List UInt8) : List Nat :=
  if bits = 8 then bytes.map UInt8.toNat
  else bytes.flatMap fun b => [b.toNat / 16, b.toNat % 16]

/-- The pixels with some more, which have to fit into the row. -/
def extended (width : Nat) (out : Array Nat) (column : Nat) (more : List Nat) :
    Reading (Array Nat) :=
  if width < column + more.length then corrupt else return out ++ more.toArray

/-- Read runs until all rows are full or the end is marked. Rows are counted, and so are the
pixels of a row, since a row may be full before its end is marked. A run takes two bytes and
more, so the number of bytes that are left is fuel enough. -/
def runsFrom (h : Header) (out : Array Nat) (row column : Nat) : Nat → Reading (Array Nat)
  | 0 => throw .unfilled
  | fuel + 1 => do
    if h.height ≤ row then return out
    let count ← Reading.byte
    let value ← Reading.byte
    let rest := h.width - column
    if count ≠ 0 then
      let one := numbersIn h.bits [value, value]
      let more := (List.range count.toNat).map fun i => one.getD (i % 2) 0
      runsFrom h (← extended h.width out column more) row (column + count.toNat) fuel
    else
      match value.toNat with
      | 0 => runsFrom h (out ++ Array.replicate rest blank) (row + 1) 0 fuel
      | 1 => return out ++ Array.replicate (h.width * h.height - out.size) blank
      | 2 =>
        let right := (← Reading.byte).toNat
        let up := (← Reading.byte).toNat
        if h.height ≤ row + up then corrupt
        if h.width < column + right then corrupt
        let passed := if up = 0 then right else up * h.width + right
        runsFrom h (out ++ Array.replicate passed blank) (row + up) (column + right) fuel
      | length =>
        let count := if h.bits = 8 then length else (length + 1) / 2
        let bytes ← Reading.take (count + count % 2)
        let more := (numbersIn h.bits bytes.data.toList).take length
        runsFrom h (← extended h.width out column more) row (column + length) fuel

/-- The channels of the pixels, by their row in the file and their column. -/
def pixels (s : Setup) : Reading (Nat → Nat → Nat → Nat) := do
  set s.start
  match s.header.kind with
  | .runs =>
    let numbers ← runsFrom s.header #[] 0 0 ((← Reading.left) + 1)
    return fun row column c =>
      let n := numbers.getD (row * s.header.width + column) blank
      if n = blank then 0 else s.color n c
  | _ =>
    let bytes ← Reading.take (s.header.height * s.header.rowBytes)
    return s.channelIn bytes

/-- The layout of the picture. -/
def Setup.layout (s : Setup) : PictureLayout := if s.clear then .rgba8 else .rgb8

/-- The row of the file that is a row of the picture of some height. -/
def Setup.fileRow (s : Setup) (height row : Nat) : Nat :=
  if s.header.downward then row else height - 1 - row

/-- A bitmap. -/
def picture : Reading Picture := do
  let s ← setup false
  let extent ← Reading.extent s.header.width s.header.height
  Reading.checkMemory extent s.layout
  let channel ← pixels s
  return Picture.ofNumbers s.layout extent fun i =>
    let pixel := i / s.layout.samples
    channel (s.fileRow extent.height (pixel / extent.width)) (pixel % extent.width)
      (i % s.layout.samples)

end Tint.Bitmap
