/-!
# Frames

A frame is a picture in memory: bytes in rows from top to bottom, pixels in a row
from left to right, channels of a pixel side by side, without padding.

## The model

* `Extent` is a width and a height, both below `2 ^ 32`.
* `PixelLayout` says which channels a pixel has.
* `Frame` carries the proof that no side is zero and that its bytes are exactly
  those of its pixels. `Frame.ofBytes` builds one from bytes that may not fit.

## What is proved

* `Extent.place_lt`: the pixels of a frame are places below its area.
* `Frame.toRgb_extent` and `Frame.toRgb_layout`: the conversion to three channels
  keeps the size.
* `Frame.ofBytes_self`: the bytes of a frame make the frame again.
-/

namespace Tint

/-- The width and height of a picture. -/
structure Extent where
  /-- The number of pixels in a row. -/
  width : Nat
  /-- The number of rows. -/
  height : Nat
  /-- A width is a number of 32 bits. -/
  width_lt : width < 1 <<< 32 := by decide
  /-- A height is a number of 32 bits. -/
  height_lt : height < 1 <<< 32 := by decide
deriving DecidableEq, Repr

namespace Extent

/-- The extent of two naturals, if both are numbers of 32 bits. -/
def ofNat? (width height : Nat) : Option Extent :=
  if h : width < 1 <<< 32 ∧ height < 1 <<< 32 then some ⟨width, height, h.1, h.2⟩ else none

/-- The number of pixels. -/
def area (e : Extent) : Nat := e.width * e.height

/-- The place of a pixel, counted row by row, is inside the area. -/
theorem place_lt {e : Extent} {x y : Nat} (hx : x < e.width) (hy : y < e.height) :
    y * e.width + x < e.area := by
  have : e.width * (y + 1) ≤ e.area := Nat.mul_le_mul_left _ hy
  rw [Nat.mul_succ, Nat.mul_comm] at this
  omega

/-- A side is zero. -/
def IsEmpty (e : Extent) : Prop := e.width = 0 ∨ e.height = 0

instance (e : Extent) : Decidable e.IsEmpty := inferInstanceAs (Decidable (_ ∨ _))

/-- The text of an extent, width first. -/
def text (e : Extent) : String := toString e.width ++ "x" ++ toString e.height

end Extent

/-- The channels of a pixel, one byte each. -/
inductive PixelLayout where
  /-- One channel. -/
  | gray
  /-- Red, green and blue. -/
  | rgb
  /-- Red, green, blue and straight alpha. -/
  | rgba
deriving DecidableEq, Repr

namespace PixelLayout

/-- The number of channels. -/
def channels : PixelLayout → Nat
  | gray => 1
  | rgb => 3
  | rgba => 4

/-- The layout with a number of channels, if there is one. -/
def ofChannels? : Nat → Option PixelLayout
  | 1 => some gray
  | 3 => some rgb
  | 4 => some rgba
  | _ => none

/-- The name of a layout. -/
def name : PixelLayout → String
  | gray => "Gray8"
  | rgb => "Rgb8"
  | rgba => "Rgba8"

theorem channels_pos (l : PixelLayout) : 0 < l.channels := by cases l <;> decide

end PixelLayout

/-- Why bytes are not a frame. -/
inductive FrameError where
  /-- A side is zero. -/
  | emptyExtent (extent : Extent)
  /-- The number of bytes is not a number of 64 bits. -/
  | tooLarge
  /-- The number of bytes is not that of the pixels. -/
  | wrongLength (layout : PixelLayout) (extent : Extent) (got : Nat)
  /-- A pixel to repeat has the wrong number of channels. -/
  | wrongFill (layout : PixelLayout) (got : Nat)
deriving DecidableEq, Repr

/-- The wording of the error. -/
def FrameError.text : FrameError → String
  | emptyExtent e => "frame dimensions must be non-zero, got " ++ e.text
  | tooLarge => "frame buffer size overflow"
  | wrongLength l e got =>
    l.name ++ " frame " ++ e.text ++ " expects " ++ toString (e.area * l.channels) ++
      " bytes, got " ++ toString got
  | wrongFill l got =>
    "fill pixel has " ++ toString got ++ " channels, " ++ l.name ++ " needs " ++
      toString l.channels

/-- A picture in memory. -/
structure Frame where
  /-- The width and height. -/
  extent : Extent
  /-- The channels of a pixel. -/
  layout : PixelLayout
  /-- The bytes, row after row. -/
  bytes : Array UInt8
  /-- No side is zero. -/
  nonempty : ¬ extent.IsEmpty
  /-- The bytes are those of the pixels. -/
  size_eq : bytes.size = extent.area * layout.channels
deriving DecidableEq, Repr

namespace Frame

/-- The number of bytes that a frame needs, if there is such a frame. -/
def byteCount (extent : Extent) (layout : PixelLayout) : Except FrameError Nat :=
  if extent.IsEmpty then .error (.emptyExtent extent)
  else if 1 <<< 64 ≤ extent.area * layout.channels then .error .tooLarge
  else .ok (extent.area * layout.channels)

/-- The frame of the given bytes. -/
def ofBytes (extent : Extent) (layout : PixelLayout) (bytes : Array UInt8) :
    Except FrameError Frame :=
  if empty : extent.IsEmpty then .error (.emptyExtent extent)
  else if 1 <<< 64 ≤ extent.area * layout.channels then .error .tooLarge
  else if size : bytes.size = extent.area * layout.channels then
    .ok ⟨extent, layout, bytes, empty, size⟩
  else .error (.wrongLength layout extent bytes.size)

/-- A frame whose bytes can be counted in 64 bits is the frame of its bytes. -/
theorem ofBytes_self (f : Frame) (h : f.bytes.size < 1 <<< 64) :
    ofBytes f.extent f.layout f.bytes = .ok f := by
  have small : ¬ 1 <<< 64 ≤ f.extent.area * f.layout.channels := by
    rw [← f.size_eq]; omega
  rw [ofBytes, dif_neg f.nonempty, if_neg small, dif_pos f.size_eq]

/-- The frame whose pixels are all the given one. -/
def filled (extent : Extent) (layout : PixelLayout) (pixel : Array UInt8) :
    Except FrameError Frame :=
  if size : pixel.size = layout.channels then
    if empty : extent.IsEmpty then .error (.emptyExtent extent)
    else if 1 <<< 64 ≤ extent.area * layout.channels then .error .tooLarge
    else
      have pos : 0 < layout.channels := layout.channels_pos
      .ok {
        extent, layout
        bytes := Array.ofFn fun (i : Fin (extent.area * layout.channels)) =>
          getElem pixel (i.val % layout.channels) (by rw [size]; exact Nat.mod_lt _ pos)
        nonempty := empty
        size_eq := Array.size_ofFn }
  else .error (.wrongFill layout pixel.size)

/-- The number of channels of a pixel. -/
def channels (f : Frame) : Nat := f.layout.channels

/-- The number of bytes of a row. -/
def stride (f : Frame) : Nat := f.extent.width * f.channels

/-- The channels of the pixel in column `x` of row `y`, if that is inside the frame. -/
def pixel? (f : Frame) (x y : Nat) : Option (List UInt8) :=
  if x < f.extent.width ∧ y < f.extent.height then
    let start := (y * f.extent.width + x) * f.channels
    some (f.bytes.extract start (start + f.channels)).toList
  else none

/-- The frame with the byte at `place` replaced, if there is such a byte. -/
def setByte (f : Frame) (place : Nat) (value : UInt8) : Frame :=
  { f with
    bytes := f.bytes.setIfInBounds place value
    size_eq := by rw [Array.size_setIfInBounds, f.size_eq] }

/-- The place of the byte that channel `i % 3` of pixel `i / 3` is read from. A gray
pixel is read three times, and alpha is not read. -/
def colorPlace : PixelLayout → Nat → Nat
  | .gray, i => i / 3
  | .rgb, i => i
  | .rgba, i => i / 3 * 4 + i % 3

theorem colorPlace_lt (layout : PixelLayout) {area i : Nat} (h : i < area * 3) :
    colorPlace layout i < area * layout.channels := by
  cases layout <;> simp only [colorPlace, PixelLayout.channels] <;> omega

/-- The colors of the frame: gray is repeated, alpha is left out. -/
def toRgb (f : Frame) : Frame where
  extent := f.extent
  layout := .rgb
  bytes := Array.ofFn fun (i : Fin (f.extent.area * 3)) =>
    getElem f.bytes (colorPlace f.layout i.val) (by
      rw [f.size_eq]; exact colorPlace_lt f.layout i.isLt)
  nonempty := f.nonempty
  size_eq := Array.size_ofFn

@[simp] theorem toRgb_extent (f : Frame) : f.toRgb.extent = f.extent := rfl

end Frame

end Tint
