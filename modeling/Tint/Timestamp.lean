import Tint.Binary

/-!
# Timestamps and packets

A timestamp is a stream time in microseconds, a signed number of 64 bits. A packet
is a value tagged with the timestamp it belongs to.
-/

namespace Tint

/-- A stream time in microseconds. -/
structure Timestamp where
  /-- The number of microseconds. -/
  micros : Int
  /-- The time is not below the least signed number of 64 bits. -/
  le_micros : -9223372036854775808 ≤ micros := by decide
  /-- The time is not above the greatest signed number of 64 bits. -/
  micros_lt : micros < 9223372036854775808 := by decide
deriving DecidableEq, Repr

namespace Timestamp

/-- The time nearest to `n` microseconds that a timestamp can hold. -/
def clamp (n : Int) : Timestamp where
  micros := max (-9223372036854775808) (min n 9223372036854775807)
  le_micros := by omega
  micros_lt := by omega

/-- The time of `n` microseconds, if a timestamp can hold it. -/
def ofMicros? (n : Int) : Option Timestamp :=
  if h : -9223372036854775808 ≤ n ∧ n < 9223372036854775808 then some ⟨n, h.1, h.2⟩ else none

/-- The time of frame number `frame` at `rate` frames a second, rounded down to a
microsecond and held within the range of a timestamp. A rate of zero has no
spacing. -/
def ofFrame? (frame rate : Nat) : Option Timestamp :=
  if rate = 0 then none else some (clamp (frame * 1000000 / rate : Nat))

/-- The time in seconds. -/
def seconds (t : Timestamp) : Double := Binary.ofInt t.micros / Binary.ofNat 1000000

/-- The text of a time: its microseconds and their unit. -/
def text (t : Timestamp) : String := toString t.micros ++ "us"

instance : Ord Timestamp := ⟨fun s t => compare s.micros t.micros⟩
instance : LE Timestamp := ⟨fun s t => s.micros ≤ t.micros⟩
instance : LT Timestamp := ⟨fun s t => s.micros < t.micros⟩
instance (s t : Timestamp) : Decidable (s ≤ t) := inferInstanceAs (Decidable (s.micros ≤ t.micros))
instance (s t : Timestamp) : Decidable (s < t) := inferInstanceAs (Decidable (s.micros < t.micros))

/-- The later of two times. -/
def later (s t : Timestamp) : Timestamp := if s ≤ t then t else s

end Timestamp

/-- A value with the time it belongs to. -/
structure Packet (α : Type) where
  /-- The time of the value. -/
  timestamp : Timestamp
  /-- The value. -/
  payload : α
deriving DecidableEq, Repr

namespace Packet

/-- The packet with `f` applied to its value, at the same time. -/
def map {α β : Type} (f : α → β) (p : Packet α) : Packet β := ⟨p.timestamp, f p.payload⟩

instance : Functor Packet where
  map := map

end Packet

end Tint
