import Tint.Picture
import Tint.Png.Header

/-!
# Writing picture files

From a picture to the bytes of a picture file: one row after the other without filter, in
blocks without compression.
-/

namespace Tint

/-- The bytes of a sample in a picture file, the highest first. -/
def Depth.fileBytes : (d : Depth) → d.Sample → List UInt8
  | byte, v => [v]
  | word, v => [UInt8.ofNat (v.toNat / 256), UInt8.ofNat v.toNat]
  | single, v => [toByte single v]

namespace Png

/-- What the samples of a layout mean. -/
def Meaning.ofLayout (l : PictureLayout) : Meaning :=
  match l.samples with
  | 1 => .gray
  | 2 => .grayAlpha
  | 3 => .color
  | _ => .colorAlpha

/-- The header of a picture. Floating point numbers are written as bytes. -/
def Header.ofPicture (p : Picture) : Header where
  extent := p.extent
  bits := if p.layout.depth = .word then 16 else 8
  meaning := Meaning.ofLayout p.layout
  interlaced := false

/-- The bytes of the samples of a picture. -/
def sampleBytes (p : Picture) : ByteArray :=
  p.samples.foldl (fun bytes v => (p.layout.depth.fileBytes v).foldl ByteArray.push bytes)
    ByteArray.empty

/-- The rows, each behind a byte that says it has no filter. -/
def encodeRows (rowBytes : Nat) (data : ByteArray) : Nat → Nat → ByteArray → ByteArray
  | 0, _, out => out
  | rows + 1, start, out =>
    encodeRows rowBytes data rows (start + rowBytes)
      (out.push 0 ++ data.extract start (start + rowBytes))

/-- The most bytes that a block without compression holds. -/
def blockBytes : Nat := 65535

/-- Bytes in blocks without compression, from `start` on. There is a last block, even if it
is empty. -/
def encodeBlocks (data : ByteArray) : Nat → Nat → ByteArray → ByteArray
  | blocks, start, out =>
    let stop := min data.size (start + blockBytes)
    let length := stop - start
    let block : ByteArray :=
      ⟨#[if blocks = 0 then 1 else 0, UInt8.ofNat length, UInt8.ofNat (length / 256),
        UInt8.ofNat (blockBytes - length), UInt8.ofNat ((blockBytes - length) / 256)]⟩
    let out := out ++ block ++ data.extract start stop
    match blocks with
    | 0 => out
    | blocks + 1 => encodeBlocks data blocks stop out

/-- Bytes between a header of two bytes and their sums. -/
def wrap (data : ByteArray) : ByteArray :=
  encodeBlocks data ((data.size - 1) / blockBytes) 0 ⟨#[0x78, 0x01]⟩ ++ encodeWord (sums data)

/-- The bytes of a picture file. -/
def encode (p : Picture) : ByteArray :=
  let header := Header.ofPicture p
  let rows := encodeRows (header.rowBytes p.extent.width) (sampleBytes p) p.extent.height 0
    ByteArray.empty
  signature ++ (Chunk.mk Header.chunkName header.encode).encode ++
    (Chunk.mk "IDAT" (wrap rows)).encode ++ (Chunk.mk Chunk.lastName ByteArray.empty).encode

end Png

end Tint
