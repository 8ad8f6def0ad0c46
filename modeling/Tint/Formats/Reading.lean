import Tint.Formats.Defect

/-!
# Reading bytes

A reader goes through the bytes of a file and ends with an answer or a defect.

## The model

* `Reading α` is a reader: from the bytes of a file and a place in them to an answer and the
  place after it.
* A reader may look at any place, also at one beyond the last byte, but finds nothing there.
* Loops are bounded by the number of bytes that are left, or by a count that was read.
-/

namespace Tint

/-- A reader of the bytes of a file. -/
abbrev Reading := ReaderT ByteArray (StateT Nat (Except Defect))

namespace Reading

/-- The answer of a reader that starts at the first byte. -/
def answer {α : Type} (r : Reading α) (bytes : ByteArray) : Except Defect α :=
  (·.1) <$> (r bytes).run 0

/-- The number of bytes from the place on. -/
def left : Reading Nat := return (← read).size - (← get)

/-- The next byte, if there is one. -/
def byte? : Reading (Option UInt8) := do
  let place ← get
  match (← read)[place]? with
  | none => return none
  | some b =>
    set (place + 1)
    return some b

/-- The next byte. -/
def byte : Reading UInt8 := do
  match ← byte? with
  | some b => return b
  | none => throw .unfilled

/-- The next `count` bytes, or those that there are. -/
def atMost (count : Nat) : Reading ByteArray := do
  let place ← get
  let bytes ← read
  let stop := min bytes.size (place + count)
  set (max place stop)
  return bytes.extract place stop

/-- The next `count` bytes. -/
def take (count : Nat) : Reading ByteArray := do
  let bytes ← atMost count
  if bytes.size < count then throw .unfilled
  return bytes

/-- Pass over `count` bytes that have to be there. -/
def skip (count : Nat) : Reading Unit := do
  let _ ← take count

/-- The number in `count` bytes, the lowest first. -/
def low : Nat → Reading Nat
  | 0 => return 0
  | count + 1 => do
    let first ← byte
    let rest ← low count
    return first.toNat + 256 * rest

/-- The number in `count` bytes, the highest first, `value` being that of the bytes before. -/
def highFrom (value : Nat) : Nat → Reading Nat
  | 0 => return value
  | count + 1 => do
    let next ← byte
    highFrom (256 * value + next.toNat) count

/-- The number in `count` bytes, the highest first. -/
def high (count : Nat) : Reading Nat := highFrom 0 count

/-- A reader whose refusals are told otherwise. -/
def rewording {α : Type} (f : String → Defect) (r : Reading α) : Reading α := fun bytes place =>
  match r bytes place with
  | .error (.refused text) => .error (f text)
  | result => result

/-- The answers of `count` runs of a reader. -/
def several {α : Type} (r : Reading α) : Nat → Reading (List α)
  | 0 => return []
  | count + 1 => do
    let first ← r
    return first :: (← several r count)

end Reading

end Tint
