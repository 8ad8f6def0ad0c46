/-!
# Decompression

Bytes that were compressed as literals and copies of earlier bytes, both written in prefix
codes whose lengths stand in front of them. Damaged input gives nothing.

## The model

* `Bits` is a place in the input, counted in bits from the low end of each byte.
* `Code` is a prefix code in canonical form: for each length, how many codes have it, and
  the symbols in the order of their codes.
* `inflate` goes from block to block. Every symbol takes a bit of the input, so the number
  of its bits is fuel enough.
-/

namespace Tint.Png

/-- A place in compressed bytes. -/
structure Bits where
  /-- The bytes. -/
  bytes : ByteArray
  /-- The number of bits before the place. -/
  place : Nat

namespace Bits

/-- The next bit. -/
def bit? (s : Bits) : Option (Nat × Bits) := do
  let byte ← s.bytes[s.place / 8]?
  return (byte.toNat >>> (s.place % 8) % 2, { s with place := s.place + 1 })

/-- The number in the next `count` bits, the lowest first. -/
def number? (s : Bits) : Nat → Option (Nat × Bits)
  | 0 => some (0, s)
  | count + 1 => do
    let (low, s) ← s.bit?
    let (rest, s) ← number? s count
    return (low + 2 * rest, s)

/-- The place at the next byte. -/
def aligned (s : Bits) : Bits := { s with place := (s.place + 7) / 8 * 8 }

end Bits

/-! ### Prefix codes -/

/-- The greatest length of a code. -/
def longest : Nat := 15

/-- A prefix code in canonical form. -/
structure Code where
  /-- The number of codes of each length, from one bit on. -/
  counts : List Nat
  /-- The symbols in the order of their codes. -/
  symbols : Array Nat

namespace Code

/-- The symbols whose code has a length. -/
def ofLength (lengths : List Nat) (length : Nat) : List Nat :=
  lengths.zipIdx.filterMap fun (l, symbol) => if l = length then some symbol else none

/-- The code of the lengths of all symbols, a length of zero being that of no code. -/
def ofLengths (lengths : List Nat) : Code :=
  let groups := (List.range longest).map fun k => ofLength lengths (k + 1)
  ⟨groups.map List.length, groups.flatten.toArray⟩

/-- Read one code: `value` is that of the bits so far, `first` the least code of this
length, and `index` the number of shorter codes. -/
def readFrom (c : Code) (value first index : Nat) : List Nat → Bits → Option (Nat × Bits)
  | [], _ => none
  | count :: counts, s => do
    let (bit, s) ← s.bit?
    let value := value + bit
    if value < first + count then
      let symbol ← c.symbols[index + (value - first)]?
      return (symbol, s)
    else readFrom c (2 * value) (2 * (first + count)) (index + count) counts s

/-- Read one symbol. -/
def read (c : Code) (s : Bits) : Option (Nat × Bits) := c.readFrom 0 0 0 c.counts s

/-- The code of literals and lengths that stands for itself. -/
def literals : Code :=
  ofLengths (List.replicate 144 8 ++ List.replicate 112 9 ++ List.replicate 24 7 ++
    List.replicate 8 8)

/-- The code of distances that stands for itself. -/
def distances : Code := ofLengths (List.replicate 30 5)

end Code

/-! ### Copies -/

/-- The least length of each length symbol, and the number of bits that are added to it. -/
def lengthTable : Array (Nat × Nat) :=
  #[(3, 0), (4, 0), (5, 0), (6, 0), (7, 0), (8, 0), (9, 0), (10, 0), (11, 1), (13, 1), (15, 1),
    (17, 1), (19, 2), (23, 2), (27, 2), (31, 2), (35, 3), (43, 3), (51, 3), (59, 3), (67, 4),
    (83, 4), (99, 4), (115, 4), (131, 5), (163, 5), (195, 5), (227, 5), (258, 0)]

/-- The least distance of each distance symbol, and the number of bits that are added. -/
def distanceTable : Array (Nat × Nat) :=
  #[(1, 0), (2, 0), (3, 0), (4, 0), (5, 1), (7, 1), (9, 2), (13, 2), (17, 3), (25, 3), (33, 4),
    (49, 4), (65, 5), (97, 5), (129, 6), (193, 6), (257, 7), (385, 7), (513, 8), (769, 8),
    (1025, 9), (1537, 9), (2049, 10), (3073, 10), (4097, 11), (6145, 11), (8193, 12),
    (12289, 12), (16385, 13), (24577, 13)]

/-- The number of a symbol: its least value and the bits that are added. -/
def readAmount (table : Array (Nat × Nat)) (symbol : Nat) (s : Bits) : Option (Nat × Bits) := do
  let (least, extra) ← table[symbol]?
  let (more, s) ← s.number? extra
  return (least + more, s)

/-- The output with `count` bytes copied from `distance` bytes back. A copy may overlap
what it makes. -/
def copyBack (distance : Nat) : Nat → ByteArray → Option ByteArray
  | 0, out => some out
  | count + 1, out => do
    if distance > out.size then none
    let byte ← out[out.size - distance]?
    copyBack distance count (out.push byte)

/-! ### Blocks -/

/-- The symbol that ends a block. -/
def endOfBlock : Nat := 256

/-- The literals and copies of a block, up to its end. -/
def readSymbols (literals distances : Code) : Nat → Bits → ByteArray → Option (ByteArray × Bits)
  | 0, _, _ => none
  | fuel + 1, s, out => do
    let (symbol, s) ← literals.read s
    if symbol < endOfBlock then
      readSymbols literals distances fuel s (out.push (UInt8.ofNat symbol))
    else if symbol = endOfBlock then return (out, s)
    else
      let (length, s) ← readAmount lengthTable (symbol - 257) s
      let (symbol, s) ← distances.read s
      let (distance, s) ← readAmount distanceTable symbol s
      let out ← copyBack distance length out
      readSymbols literals distances fuel s out

/-- A block without compression: its length, the complement of it, and the bytes. -/
def readStored (s : Bits) (out : ByteArray) : Option (ByteArray × Bits) := do
  let s := s.aligned
  let (length, s) ← s.number? 16
  let (complement, s) ← s.number? 16
  if length + complement ≠ 65535 then none
  let start := s.place / 8
  if start + length > s.bytes.size then none
  return (out ++ s.bytes.extract start (start + length),
    { s with place := s.place + 8 * length })

/-- The order in which the lengths of the codes for lengths are written. -/
def lengthOrder : List Nat := [16, 17, 18, 0, 8, 7, 9, 6, 10, 5, 11, 4, 12, 3, 13, 2, 14, 1, 15]

/-- The numbers of three bits each that come first in the order of lengths. -/
def readShort : Nat → Bits → Option (List Nat × Bits)
  | 0, s => some ([], s)
  | count + 1, s => do
    let (length, s) ← s.number? 3
    let (rest, s) ← readShort count s
    return (length :: rest, s)

/-- The lengths of codes, newest first, until there are `count` of them. A length may be
repeated. -/
def readLengths (code : Code) (count : Nat) :
    Nat → List Nat → Bits → Option (List Nat × Bits)
  | 0, _, _ => none
  | fuel + 1, lengths, s =>
    if lengths.length = count then some (lengths, s)
    else if lengths.length > count then none
    else do
      let (symbol, s) ← code.read s
      if symbol < 16 then readLengths code count fuel (symbol :: lengths) s
      else
        let (value, least, bits) ←
          if symbol = 16 then lengths.head?.map fun l => (l, 3, 2)
          else if symbol = 17 then some (0, 3, 3)
          else some (0, 11, 7)
        let (more, s) ← s.number? bits
        readLengths code count fuel (List.replicate (least + more) value ++ lengths) s

/-- The two codes of a block that brings its own. -/
def readCodes (s : Bits) : Option (Code × Code × Bits) := do
  let (literals, s) ← s.number? 5
  let (distances, s) ← s.number? 5
  let (short, s) ← s.number? 4
  let (written, s) ← readShort (short + 4) s
  let lengths := (List.range 19).map fun symbol =>
    ((lengthOrder.zip written).lookup symbol).getD 0
  let count := literals + 257 + (distances + 1)
  let (reversed, s) ← readLengths (Code.ofLengths lengths) count (count + 1) [] s
  let all := reversed.reverse
  return (Code.ofLengths (all.take (literals + 257)), Code.ofLengths (all.drop (literals + 257)), s)

/-- The blocks up to the last one. -/
def readBlocks : Nat → Bits → ByteArray → Option ByteArray
  | 0, _, _ => none
  | fuel + 1, s, out => do
    let (last, s) ← s.number? 1
    let (kind, s) ← s.number? 2
    let (out, s) ←
      match kind with
      | 0 => readStored s out
      | 1 => readSymbols Code.literals Code.distances (8 * s.bytes.size) s out
      | 2 => do
        let (literals, distances, s) ← readCodes s
        readSymbols literals distances (8 * s.bytes.size) s out
      | _ => none
    if last = 1 then return out else readBlocks fuel s out

/-- The bytes that were compressed. -/
def inflate (bytes : ByteArray) : Option ByteArray :=
  readBlocks (8 * bytes.size) ⟨bytes, 0⟩ ByteArray.empty

/-- The bytes that were compressed, behind a header of two bytes. -/
def inflateWrapped (bytes : ByteArray) : Option ByteArray := do
  let first ← bytes[0]?
  let second ← bytes[1]?
  if first.toNat % 16 ≠ 8 then none
  if (first.toNat * 256 + second.toNat) % 31 ≠ 0 then none
  if second.toNat / 32 % 2 = 1 then none
  inflate (bytes.extract 2 bytes.size)

end Tint.Png
