import Tint.Frame
import Tint.Settings

/-!
# Mask planes

The weights of a mask are one of its channels. A plane is such a channel: one byte a
pixel. A plane is brought to another size by bilinear sampling at the centres of the
pixels, with the edges repeated.

## The model

* `Frame.plane` takes the chosen channel of a mask; a gray mask has only one.
* `Plane.sample?` reads a plane at a place given by two numbers from 0 to 1. All
  arithmetic is of 32 bits. A number off that range, or a texel off the plane, gives
  nothing.
* `Frame.weights` is the plane of a mask at a given size; a plane of that size is used
  as it is. A number off its range is an error (`MaskError.outside`), whereas reading a
  texel that is not there crashes the program (`Halt.crash`).
-/

namespace Tint

/-- How a computation ends that does not come to a value. -/
inductive Halt (ε : Type) where
  /-- With an error, which its caller is told. -/
  | fault (cause : ε)
  /-- With a crash: it does not return. -/
  | crash
deriving DecidableEq, Repr

/-- Why a mask has no weights. -/
inductive MaskError where
  /-- The chosen channel is not one that the mask has. -/
  | missingChannel (channel : Channel) (layout : PixelLayout)
  /-- A side of the wanted size is zero. -/
  | emptyTarget (extent : Extent)
  /-- A number that tells a place is off its range. -/
  | outside
deriving DecidableEq, Repr

/-- The wording of the error. -/
def MaskError.text : MaskError → String
  | missingChannel c l =>
    c.name ++ " mask channel needs an RGBA mask, got " ++ l.name
  | emptyTarget e => "mask target size must be non-zero, got " ++ e.text
  | outside => "mask sample outside the mask plane"

/-- One byte for each pixel. -/
structure Plane where
  /-- The width and height. -/
  extent : Extent
  /-- The bytes, row after row. -/
  bytes : Array UInt8
  /-- There is a byte for each pixel. -/
  size_eq : bytes.size = extent.area
deriving DecidableEq, Repr

/-- The channel of a mask that its weights are read from: the only one of a gray mask,
else the chosen one, which the mask must have. -/
def maskPlane (channel : Channel) (layout : PixelLayout) : Except MaskError Nat :=
  match layout with
  | .gray => .ok 0
  | _ =>
    if layout.channels ≤ channel.plane then .error (.missingChannel channel layout)
    else .ok channel.plane

theorem maskPlane_lt {channel : Channel} {layout : PixelLayout} {plane : Nat}
    (h : maskPlane channel layout = .ok plane) : plane < layout.channels := by
  cases layout with
  | gray => simp only [maskPlane, Except.ok.injEq] at h; subst h; decide
  | rgb | rgba =>
    simp only [maskPlane] at h
    split at h <;> simp_all

namespace Plane

/-- The byte in column `x` of row `y`, if that is inside the plane. -/
def texel? (p : Plane) (x y : Nat) : Option UInt8 :=
  if x < p.extent.width ∧ y < p.extent.height then p.bytes[y * p.extent.width + x]? else none

/-- Two neighbouring texels on one axis and the weights of both. -/
structure Pair where
  /-- The lower texel. -/
  low : Nat
  /-- The upper texel. -/
  high : Nat
  /-- The weight of the lower texel. -/
  lowWeight : Single
  /-- The weight of the upper texel. -/
  highWeight : Single
deriving DecidableEq, Repr

/-- The number is from 0 to 1. -/
def isPart (v : Single) : Bool := Binary.zero.le v && v.le (Binary.ofNat 1)

/-- The place of the number `u`, from 0 to 1, on an axis of `length` texels, counted
from the centre of the first texel and held between the first and the last one. -/
def position (length : Nat) (u : Single) : Single :=
  let centre := Binary.ofNat length * u - Binary.ofRatio 1 2
  (centre.max Binary.zero).min (Binary.ofNat (length - 1))

/-- The neighbouring texels of a place on an axis of `length` texels. -/
def pairAt (length : Nat) (place : Single) : Pair :=
  let low := place.floorTo 4294967295
  { low
    high := Nat.min (low + 1) (length - 1)
    lowWeight := Binary.ofNat (low + 1) - place
    highWeight := place - Binary.ofNat low }

/-- The weighted sum of the four texels of two pairs. -/
def mixture (x y : Pair) (p00 p01 p10 p11 : UInt8) : Single :=
  (x.lowWeight * y.lowWeight) * ofByte p00 + (x.lowWeight * y.highWeight) * ofByte p01 +
    (x.highWeight * y.lowWeight) * ofByte p10 + (x.highWeight * y.highWeight) * ofByte p11

/-- The plane read at `(u, v)`, each from 0 to 1. -/
def sample? (p : Plane) (u v : Single) : Option UInt8 := do
  if !(isPart u && isPart v) then none
  let x := pairAt p.extent.width (position p.extent.width u)
  let y := pairAt p.extent.height (position p.extent.height v)
  let p00 ← p.texel? x.low y.low
  let p01 ← p.texel? x.low y.high
  let p10 ← p.texel? x.high y.low
  let p11 ← p.texel? x.high y.high
  return UInt8.ofNat ((mixture x y p00 p01 p10 p11).roundAwayTo 255)

/-- The centre of pixel number `i` of `length`, from 0 to 1. -/
def centre (length i : Nat) : Single :=
  (Binary.ofNat i + Binary.ofRatio 1 2) / Binary.ofNat length

/-- The plane read at the centre of each pixel of `target`. -/
def samples (p : Plane) (target : Extent) : Array (Option UInt8) :=
  Array.ofFn fun (i : Fin target.area) =>
    p.sample? (centre target.width (i.val % target.width))
      (centre target.height (i.val / target.width))

/-- How reading the plane at `(u, v)` ends if there is nothing to read. -/
def gap (u v : Single) : Halt MaskError :=
  if isPart u && isPart v then .crash else .fault .outside

/-- The plane brought to another size. The place of the last pixel is the furthest out, so
that nothing is read when there is nothing for that one. -/
def resample (p : Plane) (target : Extent) : Except (Halt MaskError) Plane :=
  let u := centre target.width (target.width - 1)
  let v := centre target.height (target.height - 1)
  if (p.sample? u v).isNone then .error (gap u v)
  else
    let read := p.samples target
    if read.all Option.isSome then
      .ok ⟨target, read.map (·.getD 0), by simp [read, samples]⟩
    else .error .crash

end Plane

namespace Frame

theorem planePlace_lt {area channels plane i : Nat} (h : i < area) (hp : plane < channels) :
    i * channels + plane < area * channels := by
  have : (i + 1) * channels ≤ area * channels := Nat.mul_le_mul_right channels h
  rw [Nat.succ_mul] at this
  omega

/-- The chosen channel of a mask. -/
def plane (mask : Frame) (channel : Channel) : Except MaskError Plane :=
  match h : maskPlane channel mask.layout with
  | .error e => .error e
  | .ok plane => .ok {
      extent := mask.extent
      bytes := Array.ofFn fun (i : Fin mask.extent.area) =>
        getElem mask.bytes (i.val * mask.layout.channels + plane) (by
          rw [mask.size_eq]; exact planePlace_lt i.isLt (maskPlane_lt h))
      size_eq := Array.size_ofFn }

/-- The weights of a mask at the size `target`. -/
def weights (mask : Frame) (channel : Channel) (target : Extent) :
    Except (Halt MaskError) Plane :=
  if target.IsEmpty then .error (.fault (.emptyTarget target))
  else
    match mask.plane channel with
    | .error e => .error (.fault e)
    | .ok plane => if plane.extent = target then .ok plane else plane.resample target

end Frame

end Tint
