import Tint.Binary
import Tint.Frame

/-!
# Decoded pictures

A picture as an image file holds it: its samples may be bytes, words or floating
point numbers, and it may have gray with or without alpha as well as color. A frame
is made from every picture. Gray, color and color with alpha of one byte a sample
are kept; every other picture becomes color with alpha of one byte a sample.

## What is proved

* `Frame.ofPicture_toPicture`: a frame that becomes a picture and is read back is
  the same frame.
-/

namespace Tint

/-- The kind of the samples of a picture. -/
inductive Depth where
  /-- Bytes. -/
  | byte
  /-- Numbers of 16 bits. -/
  | word
  /-- Floating point numbers of 32 bits, of which 0 to 1 show. -/
  | single
deriving DecidableEq, Repr

namespace Depth

/-- The type of a sample. -/
@[reducible] def Sample : Depth → Type
  | byte => UInt8
  | word => UInt16
  | single => Single

/-- The full intensity, that a missing alpha has. -/
def opaqueByte : UInt8 := 255

/-- A number from 0 to 1 as a byte: what is not below 1 is full, what is below 0 is
none, and a half goes up. -/
def byteOfSingle (v : Single) : UInt8 :=
  let one : Single := Binary.ofNat 1
  let held := if v.lt one then v.max Binary.zero else one
  UInt8.ofNat ((held * Binary.ofNat 255).roundAwayTo 255)

/-- The sample with a number, of which bytes and words keep the low bits. -/
def sampleOfNat : (d : Depth) → Nat → d.Sample
  | byte, n => UInt8.ofNat n
  | word, n => UInt16.ofNat n
  | single, n => Binary.ofNat n

/-- A sample reduced to a byte. -/
def toByte : (d : Depth) → d.Sample → UInt8
  | byte, v => v
  | word, v => UInt8.ofNat ((v.toNat + 128) / 257)
  | single, v => byteOfSingle v

end Depth

/-- The samples that a pixel of a picture has. -/
inductive PictureLayout where
  /-- Gray in bytes. -/
  | luma8
  /-- Gray and alpha in bytes. -/
  | lumaA8
  /-- Color in bytes. -/
  | rgb8
  /-- Color and alpha in bytes. -/
  | rgba8
  /-- Gray in words. -/
  | luma16
  /-- Gray and alpha in words. -/
  | lumaA16
  /-- Color in words. -/
  | rgb16
  /-- Color and alpha in words. -/
  | rgba16
  /-- Color in floating point numbers. -/
  | rgb32F
  /-- Color and alpha in floating point numbers. -/
  | rgba32F
deriving DecidableEq, Repr

namespace PictureLayout

/-- The kind of the samples. -/
@[reducible] def depth : PictureLayout → Depth
  | luma8 | lumaA8 | rgb8 | rgba8 => .byte
  | luma16 | lumaA16 | rgb16 | rgba16 => .word
  | rgb32F | rgba32F => .single

/-- The number of samples of a pixel. -/
def samples : PictureLayout → Nat
  | luma8 | luma16 => 1
  | lumaA8 | lumaA16 => 2
  | rgb8 | rgb16 | rgb32F => 3
  | rgba8 | rgba16 | rgba32F => 4

/-- All layouts. -/
def all : List PictureLayout :=
  [luma8, lumaA8, rgb8, rgba8, luma16, lumaA16, rgb16, rgba16, rgb32F, rgba32F]

/-- The name of a layout. -/
def name : PictureLayout → String
  | luma8 => "Luma8"
  | lumaA8 => "LumaA8"
  | rgb8 => "Rgb8"
  | rgba8 => "Rgba8"
  | luma16 => "Luma16"
  | lumaA16 => "LumaA16"
  | rgb16 => "Rgb16"
  | rgba16 => "Rgba16"
  | rgb32F => "Rgb32F"
  | rgba32F => "Rgba32F"

/-- The sample of a pixel that one of its four channels is read from: gray is read as
red, green and blue. A layout without alpha has no sample for it. -/
def channelSample? (l : PictureLayout) (channel : Nat) : Option Nat :=
  match l.samples with
  | 1 => if channel < 3 then some 0 else none
  | 2 => if channel < 3 then some 0 else some 1
  | 3 => if channel < 3 then some channel else none
  | _ => some channel

end PictureLayout

/-- A decoded picture. -/
structure Picture where
  /-- The samples of a pixel. -/
  layout : PictureLayout
  /-- The width and height; a side may be zero. -/
  extent : Extent
  /-- The samples, pixel after pixel. -/
  samples : Array layout.depth.Sample
  /-- The samples are those of the pixels. -/
  size_eq : samples.size = extent.area * layout.samples

namespace Picture

/-- The sample at `place` as a byte, or the full intensity if there is no place. -/
def byteAt (p : Picture) (place : Option Nat) : UInt8 :=
  match place with
  | none => Depth.opaqueByte
  | some i =>
    match p.samples[i]? with
    | none => Depth.opaqueByte
    | some v => p.layout.depth.toByte v

/-- The picture as color with alpha, one byte a sample. -/
def rgbaBytes (p : Picture) : Array UInt8 :=
  Array.ofFn fun (i : Fin (p.extent.area * 4)) =>
    p.byteAt ((p.layout.channelSample? (i.val % 4)).map (i.val / 4 * p.layout.samples + ·))

end Picture

namespace Frame

/-- The frame of a picture. Gray, color and color with alpha in bytes are kept, all
else becomes color with alpha. A picture with a side of zero has no frame. -/
def ofPicture (p : Picture) : Except FrameError Frame :=
  match p with
  | ⟨.luma8, extent, samples, _⟩ => ofBytes extent .gray samples
  | ⟨.rgb8, extent, samples, _⟩ => ofBytes extent .rgb samples
  | ⟨.rgba8, extent, samples, _⟩ => ofBytes extent .rgba samples
  | p => ofBytes p.extent .rgba p.rgbaBytes

/-- The picture of a frame, with the frame's bytes. -/
def toPicture (f : Frame) : Picture :=
  match f with
  | ⟨extent, .gray, bytes, _, size⟩ => ⟨.luma8, extent, bytes, size⟩
  | ⟨extent, .rgb, bytes, _, size⟩ => ⟨.rgb8, extent, bytes, size⟩
  | ⟨extent, .rgba, bytes, _, size⟩ => ⟨.rgba8, extent, bytes, size⟩

/-- A frame whose bytes can be counted in 64 bits becomes a picture and is read back
as the same frame. -/
theorem ofPicture_toPicture (f : Frame) (h : f.bytes.size < 1 <<< 64) :
    ofPicture f.toPicture = .ok f := by
  obtain ⟨extent, layout, bytes, empty, size⟩ := f
  cases layout <;> exact ofBytes_self _ h

end Frame

end Tint
