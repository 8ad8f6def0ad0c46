import Tint.Formats.Bitmap
import Tint.Png.Decode

/-!
# Icons

A list of pictures, of which the one with the most bits of a pixel and then with the most
pixels counts. It is a picture without loss, or a bitmap without a file header whose height
counts its rows twice, with a plane of bits behind it that tell which pixels are clear.

## The model

* `Entry` is what the list says of a picture, `best` the picture that counts.
-/

namespace Tint.Icon

/-- The rules of the format are broken. -/
def broken {α : Type} (reason : String) : Reading α := throw (.malformed .ico [reason])

/-- What the list says of a picture. -/
structure Entry where
  /-- The width. -/
  width : Nat
  /-- The height. -/
  height : Nat
  /-- The number of bits of a pixel. -/
  bits : Nat
  /-- The number of its bytes. -/
  length : Nat
  /-- The place of its first byte. -/
  start : Nat

/-- The greatest number of planes, of bits of a pixel, and the greatest side. -/
def limit : Nat := 256

/-- A side. The number zero stands for the greatest one. -/
def side : Reading Nat := do
  let n ← Reading.low 1
  return if n = 0 then limit else n

/-- The next picture of the list. -/
def entry : Reading Entry := do
  let width ← side
  let height ← side
  Reading.skip 2
  if limit < (← Reading.low 2) then
    broken "ICO image entry has too many color planes or too large hotspot value"
  let bits ← Reading.low 2
  if limit < bits then
    broken "ICO image entry has too many bits per pixel or too large hotspot value"
  let length ← Reading.low 4
  return { width, height, bits, length, start := ← Reading.low 4 }

/-- An entry counts less than another. -/
def Entry.isBelow (e f : Entry) : Bool :=
  e.bits < f.bits || (e.bits = f.bits && e.width * e.height < f.width * f.height)

/-- The entry that counts: the last one, unless others count more. -/
def best (entries : List Entry) : Reading Entry :=
  match entries.reverse with
  | [] => broken "ICO directory contains no image"
  | last :: before =>
    return before.reverse.foldl (fun found e => if found.isBelow e then e else found) last

/-- The sides of a picture have to be those of its entry. -/
def Entry.checkSides (e : Entry) (kind : String) (width height : Nat) : Reading Unit := do
  if e.width ≠ min width limit || e.height ≠ min height limit then
    broken ("Entry(" ++ toString e.width ++ ", " ++ toString e.height ++ ") and " ++ kind ++ "(" ++
      toString width ++ ", " ++ toString height ++ ") dimensions do not match!")

/-- The bit for a pixel, which tells that it is clear. -/
def isClear (bits : ByteArray) (rowBytes row column : Nat) : Bool :=
  Bytes.bit bits (row * rowBytes) column

/-- The plane of bits behind a bitmap. It may be left out. -/
def clearBits (e : Entry) (size : Nat) : Reading ByteArray := do
  let stop ← get
  if stop + size ≤ e.start + e.length then Reading.take size
  else if stop = e.start + e.length then return ByteArray.empty
  else broken "ICO image data size did not match expected size"

/-- A bitmap in an icon. -/
def bitmap (e : Entry) : Reading Picture := do
  let s ← Bitmap.setup true
  let width := s.header.width
  let height := s.header.height / 2
  let extent ← Reading.extent width height
  Reading.checkMemory extent .rgba8
  e.checkSides "BMP" width height
  let channel ← Bitmap.pixels { s with header := { s.header with height } }
  let rowBytes := (width + 31) / 32 * 4
  let bits ← clearBits e (rowBytes * height)
  return Picture.ofNumbers .rgba8 extent fun i =>
    let row := s.fileRow height (i / 4 / width)
    let column := i / 4 % width
    if i % 4 = 3 && isClear bits rowBytes (height - 1 - i / 4 / width) column then 0
    else channel row column (i % 4)

/-- A picture without loss in an icon. -/
def lossless (e : Entry) (bytes : ByteArray) : Reading Picture := do
  match Png.decode? (bytes.extract e.start bytes.size) with
  | none => throw (.malformed .png ["Damaged file."])
  | some p =>
    if e.length < Png.signature.size then
      broken "Entry specified a length that is shorter than PNG header!"
    e.checkSides "PNG" p.extent.width p.extent.height
    if p.layout ≠ .rgba8 then broken "The PNG is not in RGBA format!"
    return p

/-- An icon. -/
def picture : Reading Picture := do
  Reading.skip 4
  let count ← Reading.low 2
  let e ← best (← Reading.several entry count)
  set e.start
  let first ← Reading.take Png.signature.size
  set e.start
  if first.data = Png.signature.data then lossless e (← read) else bitmap e

end Tint.Icon
