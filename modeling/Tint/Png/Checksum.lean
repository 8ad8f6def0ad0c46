/-!
# Checksums

The two checksums of a picture file: a cyclic redundancy check of 32 bits over each chunk,
and a pair of sums over the bytes that were compressed.
-/

namespace Tint.Png

/-- The remainder after one more bit. -/
def crcBit (c : UInt32) : UInt32 :=
  if c &&& 1 = 1 then (0xEDB88320 : UInt32) ^^^ (c >>> 1) else c >>> 1

/-- The remainders of all bytes. -/
def crcTable : Array UInt32 :=
  Array.ofFn fun (i : Fin 256) => Nat.repeat crcBit 8 (UInt32.ofNat i.val)

/-- The remainder after one more byte. -/
def crcByte (c : UInt32) (b : UInt8) : UInt32 :=
  crcTable.getD ((c ^^^ b.toUInt32) &&& 0xFF).toNat 0 ^^^ (c >>> 8)

/-- The cyclic redundancy check of bytes. -/
def crc (bytes : ByteArray) : UInt32 := bytes.foldl crcByte 0xFFFFFFFF ^^^ 0xFFFFFFFF

/-- The greatest prime below `2 ^ 16`. -/
def sumModulus : Nat := 65521

/-- The two sums after one more byte. -/
def sumByte (sums : Nat × Nat) (b : UInt8) : Nat × Nat :=
  let low := (sums.1 + b.toNat) % sumModulus
  (low, (sums.2 + low) % sumModulus)

/-- The sum of bytes and the sum of those sums, in one word. -/
def sums (bytes : ByteArray) : Nat :=
  let (low, high) := bytes.foldl sumByte (1, 0)
  high * 65536 + low

end Tint.Png
