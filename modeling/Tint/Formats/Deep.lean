import Tint.Formats.Raster

/-!
# Deep pictures

A mark, a version with flags, and a header of attributes. An attribute has a name, a kind and
a number of bytes. The pixels behind the header are read elsewhere.
-/

namespace Tint.Deep

/-- The rules of the format are broken. -/
def broken (reason : String) : Defect := .malformed .exr [reason]

/-- The bytes that a file begins with. -/
def mark : Array UInt8 := #[0x76, 0x2f, 0x31, 0x01]

/-- What is said of bytes that end too early. -/
def short : Defect := broken "invalid: reference to missing bytes"

/-- The text up to a byte of zero, which has at most `limit` bytes; `text` is what was read of
it. -/
def textFrom (limit : Nat) (text : ByteArray) : Nat → Reading ByteArray
  | 0 => throw .unfilled
  | fuel + 1 => do
    let b ← Reading.byte
    if b = 0 then return text
    if limit ≤ text.size then throw (broken "invalid: text too long")
    textFrom limit (text.push b) fuel

/-- The text up to a byte of zero. -/
def text (limit : Nat) : Reading ByteArray := do
  textFrom limit ByteArray.empty ((← Reading.left) + 1)

/-- The names of the attributes up to an empty one, after those already read. An attribute
takes a byte and more, so the number of bytes that are left is fuel enough. -/
def attributesFrom (limit : Nat) (names : List ByteArray) : Nat → Reading (List ByteArray)
  | 0 => throw .unfilled
  | fuel + 1 => do
    let name ← text limit
    if name.isEmpty then return names
    let _ ← text limit
    let size ← Reading.low 4
    if 2147483647 < size then throw (broken "invalid: attribute size")
    Reading.skip size
    attributesFrom limit (name :: names) fuel

/-- What a deep picture begins with. -/
def header : Reading Unit := Reading.rewording (fun _ => short) do
  let first ← Reading.take mark.size
  if first.data ≠ mark then throw (broken "invalid: file identifier missing")
  let version ← Reading.low 4
  if version >>> 13 ≠ 0 then throw (broken "not supported: too new file feature flags")
  let limit := if version.testBit 10 then 256 else 32
  let names ← attributesFrom limit [] ((← Reading.left) + 1)
  if !names.any fun n => n.data = "compression".toUTF8.data then
    throw (broken "invalid: missing or invalid compression attribute")

/-- A deep picture. -/
def picture (foreign : Foreign) : Reading Picture := do
  header
  Reading.elsewhere foreign .exr

end Tint.Deep
