import Tint.Frame
import Tint.Png.Chunk

/-!
# Headers of picture files

The first chunk of a picture file says how large the picture is, what its samples mean, how
many bits each has, and whether its pixels come in passes.
-/

namespace Tint.Png

/-- What the samples of a pixel mean. -/
inductive Meaning where
  /-- Gray. -/
  | gray
  /-- Red, green and blue. -/
  | color
  /-- The place of a color in a palette. -/
  | palette
  /-- Gray and alpha. -/
  | grayAlpha
  /-- Red, green, blue and alpha. -/
  | colorAlpha
deriving DecidableEq, Repr

namespace Meaning

/-- The number that stands for a meaning. -/
def code : Meaning → Nat
  | gray => 0
  | color => 2
  | palette => 3
  | grayAlpha => 4
  | colorAlpha => 6

/-- All meanings. -/
def all : List Meaning := [gray, color, palette, grayAlpha, colorAlpha]

/-- The number of samples of a pixel. -/
def samples : Meaning → Nat
  | gray | palette => 1
  | grayAlpha => 2
  | color => 3
  | colorAlpha => 4

/-- The numbers of bits that a sample may have. -/
def widths : Meaning → List Nat
  | gray => [1, 2, 4, 8, 16]
  | palette => [1, 2, 4, 8]
  | color | grayAlpha | colorAlpha => [8, 16]

end Meaning

/-- The header of a picture file. -/
structure Header where
  /-- The width and height. -/
  extent : Extent
  /-- The number of bits of a sample. -/
  bits : Nat
  /-- What the samples mean. -/
  meaning : Meaning
  /-- The pixels come in passes. -/
  interlaced : Bool

namespace Header

/-- The name of the chunk. -/
def chunkName : String := "IHDR"

/-- The header in the bytes of a chunk. -/
def decode? (bytes : ByteArray) : Option Header := do
  if bytes.size ≠ 13 then none
  let extent ← Extent.ofNat? (← number? bytes 0 4) (← number? bytes 4 4)
  if extent.IsEmpty then none
  let bits ← number? bytes 8 1
  let code ← number? bytes 9 1
  let meaning ← Meaning.all.find? (·.code = code)
  if !meaning.widths.contains bits then none
  let methods ← number? bytes 10 2
  let passes ← number? bytes 12 1
  if methods ≠ 0 || passes > 1 then none
  return ⟨extent, bits, meaning, passes = 1⟩

/-- The bytes of a header. -/
def encode (h : Header) : ByteArray :=
  encodeWord h.extent.width ++ encodeWord h.extent.height ++
    ⟨#[UInt8.ofNat h.bits, UInt8.ofNat h.meaning.code, 0, 0, if h.interlaced then 1 else 0]⟩

/-- The number of bits of a pixel. -/
def pixelBits (h : Header) : Nat := h.meaning.samples * h.bits

/-- The number of bytes of a row of `width` pixels. -/
def rowBytes (h : Header) (width : Nat) : Nat := (width * h.pixelBits + 7) / 8

end Header

end Tint.Png
