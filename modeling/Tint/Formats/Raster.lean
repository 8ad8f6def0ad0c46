import Tint.Formats.Bytes
import Tint.Formats.Reading
import Tint.Picture

/-!
# Pictures from samples

A picture is made from its layout, its extent and a rule that tells each sample by its place.
Before that a reader sees to it that the samples can be counted and that there is memory for
them.

Not every picture is read by this library: how some formats keep their pixels is known to others
only. Their readers are a `Foreign`, which is handed all bytes of the file.
-/

namespace Tint

namespace PictureLayout

/-- The layout of a number of samples, in bytes or in words. -/
def ofSamples (wide : Bool) : Nat → PictureLayout
  | 1 => if wide then luma16 else luma8
  | 2 => if wide then lumaA16 else lumaA8
  | 3 => if wide then rgb16 else rgb8
  | _ => if wide then rgba16 else rgba8

/-- The number of bytes of a pixel. -/
def bytes (l : PictureLayout) : Nat :=
  l.samples * match l.depth with
    | .byte => 1
    | .word => 2
    | .single => 4

end PictureLayout

namespace Picture

/-- The picture whose samples are told by their place. -/
def ofFunction (layout : PictureLayout) (extent : Extent) (sample : Nat → layout.depth.Sample) :
    Picture where
  layout := layout
  extent := extent
  samples := Array.ofFn fun (i : Fin (extent.area * layout.samples)) => sample i.val
  size_eq := Array.size_ofFn

/-- The picture whose samples are numbers told by their place. -/
def ofNumbers (layout : PictureLayout) (extent : Extent) (number : Nat → Nat) : Picture :=
  ofFunction layout extent fun i => layout.depth.sampleOfNat (number i)

/-- The picture whose samples are bytes in order. -/
def ofByteArray (layout : PictureLayout) (extent : Extent) (bytes : ByteArray) : Picture :=
  ofNumbers layout extent (Bytes.one bytes)

/-- The picture whose samples are words in order, the highest byte first. -/
def ofWords (layout : PictureLayout) (extent : Extent) (bytes : ByteArray) : Picture :=
  ofNumbers layout extent fun i => Bytes.high bytes (2 * i) 2

end Picture

namespace Reading

/-- The most bytes that a picture may take. -/
def memoryLimit : Nat := 536870912

/-- The most bytes that can be counted. -/
def countLimit : Nat := 18446744073709551615

/-- Width and height as an extent. -/
def extent (width height : Nat) : Reading Extent :=
  match Extent.ofNat? width height with
  | some e => return e
  | none => throw .tooLarge

/-- The bytes of the pixels can be counted. -/
def checkCount (f : PictureFormat) (e : Extent) (layout : PictureLayout) : Reading Unit := do
  if countLimit / layout.bytes < e.area then throw (.tooManyPixels f e.width e.height)

/-- There is memory for the pixels. -/
def checkMemory (e : Extent) (layout : PictureLayout) : Reading Unit := do
  if memoryLimit < e.area * layout.bytes then throw .tooLarge

end Reading

/-- Readers of other libraries: the picture in the bytes of a file of a format. -/
abbrev Foreign : Type := PictureFormat → ByteArray → Except Defect Picture

/-- No other library is at hand, and no format is supported that needs one. -/
def Foreign.none : Foreign := fun f _ => .error (.unsupported f)

/-- The picture that another library reads in the file. -/
def Reading.elsewhere (foreign : Foreign) (f : PictureFormat) : Reading Picture := do
  foreign f (← read)

end Tint
