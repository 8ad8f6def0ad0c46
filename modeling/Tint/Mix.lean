import Tint.Settings

/-!
# Mixing colors by luminance

A pixel is mixed toward a target color by the weight of the mask times the luminance
of the pixel, so that bright areas take the color and shadows keep their shading. All
numbers are of 32 bits, and each operation is rounded once, in the order written.
-/

namespace Tint.Mix

/-- The weights of red, green and blue in the luminance. -/
def lumaWeights : Rgb Single :=
  ⟨Binary.ofRatio 299 1000, Binary.ofRatio 587 1000, Binary.ofRatio 114 1000⟩

/-- The perceived brightness, from 0 to 1, of a color with channels from 0 to 255. -/
def luminance (c : Rgb Single) : Single :=
  (c.r * lumaWeights.r + c.g * lumaWeights.g + c.b * lumaWeights.b) / fullByte

/-- How much of the target is taken: the weight times the luminance, held between 0
and 1. -/
def amount (weight luminance : Single) : Single :=
  (weight * luminance).clamp Binary.zero (Binary.ofNat 1)

/-- A channel mixed with its target. -/
def channel (keep take source target : Single) : Single := source * keep + target * take

/-- The color `source` mixed toward `target`, channels from 0 to 255. -/
def blend (source : Rgb Single) (weight : Single) (target : Rgb Single) : Rgb Single :=
  let take := amount weight (luminance source)
  let keep := Binary.ofNat 1 - take
  source.zipWith (channel keep take) target

/-- The byte nearest to a number, a tie to the even one, held between 0 and 255. -/
def quantize (v : Single) : UInt8 := UInt8.ofNat (v.roundEvenTo 255)

/-- The part of a whole that a byte stands for. -/
def weight (mask : UInt8) : Single := ofByte mask * (Binary.ofNat 1 / fullByte)

/-- A pixel mixed toward `target` by a mask byte. -/
def pixel (source : Color) (mask : UInt8) (target : Rgb Single) : Color :=
  (blend (source.map ofByte) (weight mask) target).map quantize

end Tint.Mix
