import Tint.Formats.Raster

/-!
# Plain pictures

A mark, the sides, and color with alpha of 16 bits a sample, all numbers with the highest byte
first.
-/

namespace Tint.Farbfeld

/-- The bytes that a file begins with. -/
def mark : String := "farbfeld"

/-- A byte in two hexadecimal digits. -/
def hexByte (b : UInt8) : String :=
  String.ofList (Nat.toDigits 16 (b.toNat / 16) ++ Nat.toDigits 16 (b.toNat % 16))

/-- The rules of the format are broken. -/
def broken (reason : String) : Defect := .malformed .farbfeld [reason]

/-- The header: the width and the height. -/
def sides : Reading (Nat × Nat) := do
  let first ← Reading.take mark.length
  if first.data ≠ mark.toUTF8.data then
    let seen := first.data.toList.map hexByte
    throw (broken ("Invalid magic: [" ++ String.intercalate ", " seen ++ "]"))
  let width ← Reading.high 4
  return (width, ← Reading.high 4)

/-- A plain picture. -/
def picture : Reading Picture := do
  let (width, height) ← Reading.rewording broken sides
  let extent ← Reading.extent width height
  Reading.checkCount .farbfeld extent .rgba16
  Reading.checkMemory extent .rgba16
  let bytes ← Reading.take (extent.area * PictureLayout.rgba16.bytes)
  return Picture.ofWords .rgba16 extent bytes

end Tint.Farbfeld
