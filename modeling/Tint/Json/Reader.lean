import Tint.Json.Failure

/-!
# Readers

A reader takes a value from the front of a text, or stops with an issue, and leaves
the rest of the text either way.

## The model

* The rest of the text is a list of characters; places are counted in bytes.
* A `Stop` is an issue with the number of bytes that were left at its place. An issue
  about a value, not about its writing, has no place yet: it floats until an enclosing
  `Reader.fixed` gives it the place reached by then.
* Loops run on fuel, which is more than the text has characters; each round of a loop
  takes a character or ends it, so the fuel is never used up.

## What is proved

* `Reader.fixed` and `Reader.closedBy` do not change what is read
  (`fixed_of_ok`, `closedBy_of_ok`).
-/

namespace Tint.Json

/-- The number of bytes of a text. -/
def byteLength : List Char → Nat
  | [] => 0
  | c :: rest => c.utf8Size + byteLength rest

/-- An issue, and how many bytes were left at its place if it has one. -/
structure Stop where
  /-- What is wrong. -/
  issue : Issue
  /-- The number of bytes after the place. -/
  left : Option Nat
deriving DecidableEq, Repr

/-- What takes a value from the front of a text. -/
def Reader (α : Type) : Type := List Char → Except Stop α × List Char

namespace Reader

variable {α β : Type}

instance : Monad Reader where
  pure a := fun s => (.ok a, s)
  bind r next := fun s =>
    match r s with
    | (.ok a, rest) => next a rest
    | (.error e, rest) => (.error e, rest)

/-- Stop with an issue that has no place yet. -/
def float (issue : Issue) : Reader α := fun s => (.error ⟨issue, none⟩, s)

/-- Stop with an issue at the next byte. -/
def stop (issue : Issue) : Reader α := fun s => (.error ⟨issue, some (byteLength s)⟩, s)

/-- Stop with an issue just after the next byte, or at the end of the text. -/
def stopAfter (issue : Issue) : Reader α := fun s =>
  (.error ⟨issue, some (byteLength s - 1)⟩, s)

/-- The rest of the text; nothing is taken. -/
def look : Reader (List Char) := fun s => (.ok s, s)

/-- Take one character. -/
def skip : Reader Unit := fun s => (.ok (), s.tail)

/-- The character is white space of a JSON text. -/
def isSpace (c : Char) : Bool := c = ' ' || c = '\n' || c = '\t' || c = '\r'

/-- Take white space. -/
def space : Reader Unit := fun s => (.ok (), s.dropWhile isSpace)

/-- Take white space and look at the next character. -/
def next : Reader (Option Char) := do
  space
  return (← look).head?

/-- Take the characters from the front that pass a test. -/
def takeAll (test : Char → Bool) : Reader (List Char) := fun s =>
  (.ok (s.takeWhile test), s.dropWhile test)

/-- Give a floating issue the place reached. -/
def fixed (r : Reader α) : Reader α := fun s =>
  match r s with
  | (.error ⟨issue, none⟩, rest) => (.error ⟨issue, some (byteLength rest)⟩, rest)
  | other => other

/-- Read, then close, also when reading stopped. What reading said counts first. -/
def closedBy (r : Reader α) (close : Reader Unit) : Reader α := fun s =>
  match r s with
  | (.ok a, rest) =>
    match close rest with
    | (.ok (), rest) => (.ok a, rest)
    | (.error e, rest) => (.error e, rest)
  | (.error e, rest) => (.error e, (close rest).2)

/-- Rounds of a step, at most as many as the fuel, until one gives a value. -/
def rounds (step : β → Reader (β ⊕ α)) : Nat → β → Reader α
  | 0, _ => stop .expectedValue
  | fuel + 1, b => do
    match ← step b with
    | .inl again => rounds step fuel again
    | .inr a => pure a

/-- Rounds of a step until one gives a value. Each round takes a character or is one
of the last two. -/
def loop (step : β → Reader (β ⊕ α)) (start : β) : Reader α := fun s =>
  rounds step (2 * s.length + 2) start s

/-- A reader that takes a value is not changed by a place for its issues. -/
theorem fixed_of_ok {r : Reader α} {s rest : List Char} {a : α} (h : r s = (.ok a, rest)) :
    r.fixed s = (.ok a, rest) := by
  simp [fixed, h]

theorem closedBy_of_ok {r : Reader α} {close : Reader Unit} {s rest last : List Char} {a : α}
    (h : r s = (.ok a, rest)) (hc : close rest = (.ok (), last)) :
    r.closedBy close s = (.ok a, last) := by
  simp [closedBy, h, hc]

end Reader

/-- The line and the column of the place `place` bytes into a text, `column` bytes being
before the text on line `line`. -/
def locate (line column : Nat) : Nat → List Char → Nat × Nat
  | _, [] => (line, column)
  | place, c :: rest =>
    if place = 0 then (line, column)
    else if c = '\n' then locate (line + 1) 0 (place - 1) rest
    else locate line (column + min place c.utf8Size) (place - c.utf8Size) rest

/-- The failure of a stop in a text. A stop without a place is at the start. -/
def Stop.inText (stop : Stop) (text : List Char) : Failure :=
  let place := byteLength text - stop.left.getD (byteLength text)
  let (line, column) := locate 1 0 place text
  ⟨stop.issue, line, column⟩

/-- Read a whole text: a value and nothing after it but white space. -/
def Reader.ofText {α : Type} (r : Reader α) (text : String) : Except Failure α :=
  let whole : Reader α := do
    let value ← r
    match ← next with
    | none => return value
    | some _ => stopAfter .trailingCharacters
  match whole text.toList with
  | (.ok value, _) => .ok value
  | (.error stop, _) => .error (stop.inText text.toList)

end Tint.Json
