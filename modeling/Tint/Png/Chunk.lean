import Tint.Png.Checksum

/-!
# Chunks

A picture file is a signature and a row of chunks. A chunk has a name of four letters and
bytes, with their number before them and a check of name and bytes after them.

## The model

* `Chunk` is a chunk, `Chunk.encode` its bytes.
* `chunksOf` reads the chunks of a file, up to the last one or to the first one that is
  damaged. A damaged chunk that a reader may do without is passed over.
-/

namespace Tint.Png

/-- The bytes that a picture file begins with. -/
def signature : ByteArray := ⟨#[137, 80, 78, 71, 13, 10, 26, 10]⟩

/-- A chunk. -/
structure Chunk where
  /-- The name. -/
  name : String
  /-- The bytes. -/
  body : ByteArray

/-- A number in four bytes, the highest first. -/
def encodeWord (n : Nat) : ByteArray :=
  ⟨#[UInt8.ofNat (n >>> 24), UInt8.ofNat (n >>> 16), UInt8.ofNat (n >>> 8), UInt8.ofNat n]⟩

/-- The number in `count` bytes from `start` on, the highest first. -/
def number? (bytes : ByteArray) (start : Nat) : Nat → Option Nat
  | 0 => some 0
  | count + 1 => do
    let high ← number? bytes start count
    let low ← bytes[start + count]?
    return high * 256 + low.toNat

namespace Chunk

/-- The letters of a name. -/
def letters (bytes : ByteArray) : String :=
  String.ofList (bytes.toList.map fun b => Char.ofNat b.toNat)

/-- The bytes of a chunk. -/
def encode (c : Chunk) : ByteArray :=
  let checked := c.name.toUTF8 ++ c.body
  encodeWord c.body.size ++ checked ++ encodeWord (crc checked).toNat

/-- A reader may do without a chunk whose name begins with a small letter. -/
def isAncillary (c : Chunk) : Bool := c.name.toList.head?.any Char.isLower

/-- The name of the last chunk. -/
def lastName : String := "IEND"

end Chunk

/-- The chunks from `start` on. A chunk takes twelve bytes and more, so the number of bytes
is fuel enough. -/
def readChunks (bytes : ByteArray) : Nat → Nat → List Chunk
  | 0, _ => []
  | fuel + 1, start =>
    match number? bytes start 4 with
    | none => []
    | some length =>
      let stop := start + 8 + length
      match number? bytes stop 4 with
      | none => []
      | some check =>
        let chunk : Chunk :=
          ⟨Chunk.letters (bytes.extract (start + 4) (start + 8)), bytes.extract (start + 8) stop⟩
        if (crc (bytes.extract (start + 4) stop)).toNat = check then
          if chunk.name = Chunk.lastName then [chunk]
          else chunk :: readChunks bytes fuel (stop + 4)
        else if chunk.isAncillary then readChunks bytes fuel (stop + 4)
        else []

/-- The chunks of a file. -/
def chunksOf (bytes : ByteArray) : List Chunk := readChunks bytes bytes.size signature.size

end Tint.Png
