import Tint.Formats.Raster

/-!
# Pictures that are fast to write

A header, a code for each pixel or for a run of them, and a mark at the end. A code gives the
channels of a pixel, or how they differ from those of the pixel before, or a place among the
pixels seen lately, where each pixel is kept at a place that its channels tell.

## The model

* `State` is what a reader of codes knows: the pixel before, the pixels seen lately, and how
  often the pixel before is still to be repeated.
* `next` reads the codes of one pixel.
-/

namespace Tint.Qoi

/-- The rules of the format are broken. -/
def broken (reason : String) : Defect := .malformed .qoi [reason]

/-- A pixel. -/
structure Pixel where
  /-- Red. -/
  r : UInt8
  /-- Green. -/
  g : UInt8
  /-- Blue. -/
  b : UInt8
  /-- Alpha. -/
  a : UInt8

instance : Inhabited Pixel := ⟨0, 0, 0, 0⟩

/-- The place of a pixel among those seen lately. -/
def Pixel.place (p : Pixel) (clear : Bool) : Nat :=
  let alpha := if clear then p.a.toNat else 255
  (p.r.toNat * 3 + p.g.toNat * 5 + p.b.toNat * 7 + alpha * 11) % 64

/-- The pixel with its colors changed. -/
def Pixel.moved (p : Pixel) (r g b : UInt8) : Pixel := ⟨p.r + r, p.g + g, p.b + b, p.a⟩

/-- The header. -/
structure Header where
  /-- The width. -/
  width : Nat
  /-- The height. -/
  height : Nat
  /-- Pixels have alpha. -/
  clear : Bool

/-- The mark that a file begins with, as a number. -/
def mark : Nat := 1903126886

/-- The most pixels of a picture. -/
def pixelLimit : Nat := 400000000

/-- The bytes of a number of 32 bits, the highest first. -/
def wordBytes (n : Nat) : List Nat := [24, 16, 8, 0].map fun shift => n >>> shift % 256

/-- The header. Of two faults the one that stands further to the end counts. -/
def header : Reading Header := do
  let bytes ← Reading.take 14
  set 0
  let first ← Reading.high 4
  let width ← Reading.high 4
  let height ← Reading.high 4
  let channels := bytes.data.getD 12 0
  let space := bytes.data.getD 13 0
  set 14
  if channels ≠ 3 && channels ≠ 4 then
    throw (broken ("invalid number of channels: " ++ toString channels.toNat))
  if 1 < space then
    throw (broken ("invalid color space: " ++ toString space.toNat ++ " (expected 0 or 1)"))
  if first ≠ mark then
    throw (broken ("invalid magic: expected " ++ toString mark ++ ", got " ++
      toString (wordBytes first)))
  if width * height = 0 || pixelLimit < width * height then
    throw (broken ("invalid image dimensions: " ++ toString width ++ "x" ++ toString height))
  return ⟨width, height, channels = 4⟩

/-- What a reader of codes knows. -/
structure State where
  /-- The pixel before. -/
  last : Pixel := ⟨0, 0, 0, 255⟩
  /-- The pixels seen lately. -/
  seen : Array Pixel := Array.replicate 64 default
  /-- How often the pixel before is still to be repeated. -/
  run : Nat := 0

/-- The state after a pixel that is told by its channels. -/
def State.see (s : State) (clear : Bool) (p : Pixel) : State :=
  { s with last := p, seen := s.seen.setIfInBounds (p.place clear) p }

/-- The difference that the low bits of a byte tell. -/
def difference (b : UInt8) (bits count : UInt8) : UInt8 := (b &&& bits) - count

/-- The state at the next pixel. -/
def next (clear : Bool) (s : State) : Reading State := do
  if 0 < s.run then return { s with run := s.run - 1 }
  let code ← Reading.byte
  if code = 254 then
    let r ← Reading.byte
    let g ← Reading.byte
    return s.see clear ⟨r, g, ← Reading.byte, s.last.a⟩
  else if code = 255 then
    if clear then
      let r ← Reading.byte
      let g ← Reading.byte
      let b ← Reading.byte
      return s.see clear ⟨r, g, b, ← Reading.byte⟩
    else return s.see clear s.last
  else if code < 64 then return { s with last := s.seen.getD code.toNat default }
  else if code < 128 then
    return s.see clear (s.last.moved (difference (code >>> 4) 3 2) (difference (code >>> 2) 3 2)
      (difference code 3 2))
  else if code < 192 then
    let more ← Reading.byte
    let green := difference code 63 32
    return s.see clear (s.last.moved (green + difference (more >>> 4) 15 8) green
      (green + difference more 15 8))
  else return { s with run := (code &&& 63).toNat }

/-- The pixels one after the other. -/
def pixels (clear : Bool) (s : State) (out : ByteArray) : Nat → Reading ByteArray
  | 0 => return out
  | count + 1 => do
    let s ← next clear s
    let out := ((out.push s.last.r).push s.last.g).push s.last.b
    pixels clear s (if clear then out.push s.last.a else out) count

/-- The bytes at the end. -/
def ending : Array UInt8 := #[0, 0, 0, 0, 0, 0, 0, 1]

/-- The pixels of a picture, and the end. -/
def body (h : Header) : Reading ByteArray := do
  let bytes ← pixels h.clear {} ByteArray.empty (h.width * h.height)
  let last ← Reading.take ending.size
  if last.data ≠ ending then throw (broken "invalid padding (stream end marker mismatch)")
  return bytes

/-- A refusal as the reader words it. -/
def refusal (text : String) : Defect := broken ("i/o error: " ++ text)

/-- A picture that is fast to write. -/
def picture : Reading Picture := do
  let h ← Reading.rewording refusal header
  let extent ← Reading.extent h.width h.height
  let layout : PictureLayout := if h.clear then .rgba8 else .rgb8
  Reading.checkMemory extent layout
  return Picture.ofByteArray layout extent (← Reading.rewording refusal (body h))

end Tint.Qoi
