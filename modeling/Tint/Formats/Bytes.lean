/-!
# Numbers in bytes

The numbers and the bits that stand at a place among bytes. Beyond the last byte there is
zero.
-/

namespace Tint.Bytes

/-- The byte at a place as a number. -/
def one (bytes : ByteArray) (place : Nat) : Nat := (bytes[place]?).elim 0 UInt8.toNat

/-- The number in `count` bytes from a place on, the lowest first. -/
def low (bytes : ByteArray) (place : Nat) : Nat → Nat
  | 0 => 0
  | count + 1 => one bytes place + 256 * low bytes (place + 1) count

/-- The number in `count` bytes from a place on, the highest first. -/
def high (bytes : ByteArray) (place : Nat) : Nat → Nat
  | 0 => 0
  | count + 1 => 256 * high bytes place count + one bytes (place + count)

/-- The bit with a number, counted from the highest bit of the byte at a place. -/
def bit (bytes : ByteArray) (place i : Nat) : Bool :=
  (one bytes (place + i / 8)).testBit (7 - i % 8)

end Tint.Bytes
