import Tint.Formats.Raster
import Tint.Png.Inflate

/-!
# Animations of a palette

The canvas with a palette, and blocks: pictures, each with a place on the canvas and perhaps
a palette of its own, and extensions. The first picture counts. Its pixels are places in the
palette, written in codes that stand for ever longer rows of pixels.

## The model

* `Canvas` is what the file begins with, `Part` the first picture.
* `Codes` is a dictionary of rows of pixels, that grows by every code that is read.
-/

namespace Tint.Gif

/-- The rules of the format are broken, which is told on three levels. -/
def broken {α : Type} (reason : String) : Reading α :=
  throw (.malformed .gif [reason, reason, reason])

/-- The codes of a picture are broken, which is told on two levels. -/
def brokenCodes {α : Type} (reason : String) : Reading α :=
  throw (.malformed .gif [reason, reason])

/-- The bytes end too early. -/
def ended : Defect := .malformed .gif ["Unexpected End of File"]

/-- The signatures of the two versions. -/
def signatures : List String := ["GIF87a", "GIF89a"]

/-- What a file begins with. -/
structure Canvas where
  /-- The width. -/
  width : Nat
  /-- The height. -/
  height : Nat
  /-- The palette, if there is one. -/
  palette : Option ByteArray

/-- The palette that flags speak of. -/
def palette (flags : Nat) : Reading (Option ByteArray) := do
  if flags.testBit 7 then return some (← Reading.take (3 * 2 <<< (flags % 8))) else return none

/-- What a file begins with. -/
def canvas : Reading Canvas := do
  let mark ← Reading.take 6
  if !signatures.any fun s => s.toUTF8.data = mark.data then broken "malformed GIF header"
  let width ← Reading.low 2
  let height ← Reading.low 2
  let flags ← Reading.low 1
  Reading.skip 2
  return ⟨width, height, ← palette flags⟩

/-! ### Blocks -/

/-- Bytes in blocks of their own up to an empty block. If the file ends before that, `ended`
says so. -/
structure Blocks where
  /-- The bytes. -/
  bytes : ByteArray
  /-- The file ended before the last block. -/
  ended : Bool

/-- The bytes of blocks. A block takes a byte and more, so the number of bytes that are left is
fuel enough. -/
def blocksFrom (out : ByteArray) : Nat → Reading Blocks
  | 0 => return ⟨out, true⟩
  | fuel + 1 => do
    match ← Reading.byte? with
    | none => return ⟨out, true⟩
    | some length =>
      if length = 0 then return ⟨out, false⟩
      let more ← Reading.atMost length.toNat
      if more.size < length.toNat then return ⟨out ++ more, true⟩
      blocksFrom (out ++ more) fuel

/-- The bytes of blocks, of which the first may be empty without being the last. -/
def blocks : Reading Blocks := do
  let length ← Reading.low 1
  let first ← Reading.atMost length
  if first.size < length then return ⟨first, true⟩
  blocksFrom first ((← Reading.left) + 1)

/-- The kind of an extension that tells which color is clear. -/
def controlKind : Nat := 0xF9

/-- The kinds of extensions: text, control, comment and application. -/
def extensionKinds : List Nat := [0x01, controlKind, 0xFE, 0xFF]

/-- A block of a kind that is not known. -/
def unknownBlock {α : Type} : Reading α := broken "unknown block type encountered"

/-- An extension: what it says of the color that is clear, after what was known of it. -/
def extension (clear : Option Nat) : Reading (Option Nat) := do
  let kind ← Reading.low 1
  if !extensionKinds.contains kind then unknownBlock
  let data ← blocks
  if data.ended then throw .unfilled
  if kind ≠ controlKind then return clear
  match data.bytes.data.toList with
  | [flags, _, _, color] => return if flags.toNat.testBit 0 then some color.toNat else none
  | _ => broken "control extension has wrong length"

/-- What a block that is no extension is. -/
inductive Mark where
  /-- A picture. -/
  | part
  /-- The end of the file. -/
  | last
  /-- A block of a kind that is not known. -/
  | unknown
deriving DecidableEq, Repr

/-- The block that begins with a byte. -/
def Mark.of (b : Nat) : Mark := if b = 0x2C then part else if b = 0x3B then last else unknown

/-- The first byte of an extension. -/
def extensionMark : Nat := 0x21

/-- Go to the first block that is no extension, and tell the color that is clear. A block is
known only if more bytes follow, but for the last one behind an extension. -/
def toMark (clear : Option Nat) (first : Bool) : Nat → Reading (Mark × Option Nat)
  | 0 => throw .unfilled
  | fuel + 1 => do
    let b ← Reading.low 1
    if b = extensionMark then toMark (← extension clear) false fuel
    else
      let mark := Mark.of b
      if (mark ≠ .last || first) && (← Reading.left) = 0 then throw .unfilled
      return (mark, clear)

/-! ### Codes -/

/-- The most bits of a code. -/
def longest : Nat := 12

/-- A dictionary of rows of pixels. -/
structure Codes where
  /-- The number of bits of a color. -/
  bits : Nat
  /-- The number of bits of the next code. -/
  width : Nat
  /-- The rows of pixels. -/
  rows : Array ByteArray
  /-- The row of the code before. -/
  last : Option ByteArray

namespace Codes

/-- The dictionary of single pixels, and of two codes that stand for none. -/
def initial (bits : Nat) : Codes where
  bits := bits
  width := bits + 1
  rows := ((List.range (1 <<< bits + 2)).map fun n =>
    if n < 1 <<< bits then ⟨#[UInt8.ofNat n]⟩ else ByteArray.empty).toArray
  last := none

/-- The row of a code. It may be the next one to be known: the row before, with its first
pixel once more. -/
def row? (c : Codes) (code : Nat) : Option ByteArray :=
  match c.rows[code]?, c.last with
  | some row, _ => if row.isEmpty then none else some row
  | none, some last => if code = c.rows.size then some (last ++ last.extract 0 1) else none
  | none, none => none

/-- The dictionary after a row: the row before with the first pixel of this one is known. -/
def after (c : Codes) (row : ByteArray) : Codes :=
  let rows :=
    match c.last with
    | none => c.rows
    | some last =>
      if c.rows.size < 1 <<< longest then c.rows.push (last ++ row.extract 0 1) else c.rows
  let width := if 1 <<< c.width ≤ rows.size && c.width < longest then c.width + 1 else c.width
  { c with rows, width, last := some row }

end Codes

/-- How reading codes ends before all pixels are there. -/
inductive Stop where
  /-- There are no more codes. -/
  | spent
  /-- A code stands for nothing. -/
  | unknown

/-- The pixels that codes stand for, until there are enough of them. A code takes a bit and
more, so the number of bits is fuel enough. -/
def pixelsFrom (count : Nat) (c : Codes) (s : Png.Bits) (out : ByteArray) :
    Nat → Except Stop ByteArray
  | 0 => .error .spent
  | fuel + 1 =>
    if count ≤ out.size then .ok (out.extract 0 count)
    else
      match s.number? c.width with
      | none => .error .spent
      | some (code, s) =>
        if code = 1 <<< c.bits then pixelsFrom count (Codes.initial c.bits) s out fuel
        else if code = 1 <<< c.bits + 1 then .error .spent
        else
          match c.row? code with
          | none => .error .unknown
          | some row => pixelsFrom count (c.after row) s (out ++ row) fuel

/-! ### The first picture -/

/-- The first picture. -/
structure Part where
  /-- The number of columns before it. -/
  left : Nat
  /-- The number of rows before it. -/
  top : Nat
  /-- The width. -/
  width : Nat
  /-- The height. -/
  height : Nat
  /-- Rows come in four passes. -/
  interlaced : Bool
  /-- The palette. -/
  palette : ByteArray
  /-- The places in the palette. -/
  pixels : ByteArray

/-- The rows of a pass: the first of them, and how far they are from each other. -/
def passes : List (Nat × Nat) := [(0, 8), (4, 8), (2, 4), (1, 2)]

/-- The rows of a picture in the order in which a file has them. -/
def rowOrder (height : Nat) : List Nat :=
  passes.flatMap fun (first, step) =>
    (List.range height).filter fun row => first ≤ row && (row - first) % step = 0

/-- A picture covers whole rows of the canvas. -/
def Part.coversRows (p : Part) (base : Canvas) : Bool :=
  p.left = 0 && p.width = base.width && p.top + p.height ≤ base.height

/-- The first picture without its pixels, and the number of bits of a color. More bytes have
to follow. -/
def partHeader (shared : Option ByteArray) : Reading (Part × Nat) := do
  let left ← Reading.low 2
  let top ← Reading.low 2
  let width ← Reading.low 2
  let height ← Reading.low 2
  let flags ← Reading.low 1
  let own ← palette flags
  let bits ← Reading.low 1
  if (← Reading.left) = 0 then throw .unfilled
  if 11 < bits then broken "invalid minimal code size"
  match own.orElse fun _ => shared with
  | none => broken "no color table available for current frame"
  | some palette =>
    let interlaced := flags.testBit 6
    return ({ left, top, width, height, interlaced, palette, pixels := ByteArray.empty }, bits)

/-- The pixels of a picture. Rows without pixels are not read. -/
def partPixels (p : Part) (bits : Nat) : Reading ByteArray := do
  if p.interlaced && p.height = 0 then return ByteArray.empty
  if p.width = 0 || p.height = 0 then broken "odd-sized buffer"
  let data ← blocks
  match pixelsFrom (p.width * p.height) (Codes.initial bits) ⟨data.bytes, 0⟩ ByteArray.empty
      (8 * data.bytes.size + 2) with
  | .ok pixels => return pixels
  | .error .unknown => brokenCodes "invalid code in LZW stream"
  | .error .spent => if data.ended then throw .unfilled else broken "image truncated"

/-- A channel of the pixel in a row of the file and a column. What is not in the palette is
clear. -/
def Part.channel (p : Part) (clear : Option Nat) (row column c : Nat) : Nat :=
  let n := Bytes.one p.pixels (row * p.width + column)
  if p.palette.size ≤ 3 * n then 0
  else if c = 3 then (if clear = some n then 0 else 255)
  else Bytes.one p.palette (3 * n + c)

/-- The rows of the file in the order of the rows of the picture. -/
def Part.places (p : Part) : Array Nat :=
  let order := (if p.interlaced then rowOrder p.height else List.range p.height).toArray
  order.zipIdx.foldl (fun (rows : Array Nat) (row, i) => rows.setIfInBounds row i)
    (Array.replicate p.height 0)

/-- The canvas with a picture on it. What the picture does not cover is clear. -/
def painted (extent : Extent) (p : Part) (clear : Option Nat) : Picture :=
  let places := p.places
  Picture.ofNumbers .rgba8 extent fun i =>
    let x := i / 4 % extent.width
    let y := i / 4 / extent.width
    if p.left ≤ x && x < p.left + p.width && p.top ≤ y && y < p.top + p.height then
      p.channel clear (places.getD (y - p.top) 0) (x - p.left) (i % 4)
    else 0

/-- An animation of a palette. A picture that does not cover whole rows takes memory of its
own. -/
def picture : Reading Picture := Reading.rewording (fun _ => ended) do
  let base ← canvas
  let (mark, clear) ← toMark none true ((← Reading.left) + 1)
  let extent ← Reading.extent base.width base.height
  Reading.checkMemory extent .rgba8
  match mark with
  | .last => throw .absent
  | .unknown => unknownBlock
  | .part =>
    let (p, bits) ← partHeader base.palette
    let own := if p.coversRows base then 0 else p.width * p.height
    if Reading.memoryLimit < (extent.area + own) * PictureLayout.rgba8.bytes then throw .tooLarge
    return painted extent { p with pixels := ← partPixels p bits } clear

end Tint.Gif
