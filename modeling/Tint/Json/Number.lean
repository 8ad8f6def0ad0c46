import Tint.Json.Scan

/-!
# Numbers

A number without fraction and exponent is whole, if it fits 64 bits with or without a
sign. Every other number is a floating point number of 64 bits: its digits are taken as
a whole number of 64 bits, as far as they fit, and scaled by a power of ten.

## What is proved

* `absorb_of_fits`: digits that fit are all taken.
-/

namespace Tint.Json

open Reader

/-- A number of a text. -/
inductive Number where
  /-- A whole number. -/
  | integer (value : Int)
  /-- A floating point number. -/
  | float (value : Double)
deriving DecidableEq, Repr

/-- The character is a decimal digit. -/
def isDigit (c : Char) : Bool := '0' ≤ c && c ≤ '9'

/-- The value of a decimal digit: the last four bits of its code. -/
def digitValue (c : Char) : Nat := c.toNat % 16

/-- The greatest number of 64 bits without a sign. -/
def wordLimit : Nat := 18446744073709551615

/-- The number that digits continue, as far as it stays within 64 bits, and the digits
that are left. -/
def absorb (value : Nat) : List Char → Nat × List Char
  | [] => (value, [])
  | c :: rest =>
    if wordLimit < value * 10 + digitValue c then (value, c :: rest)
    else absorb (value * 10 + digitValue c) rest

/-- The number that digits continue. -/
def ofDigits (value : Nat) : List Char → Nat
  | [] => value
  | c :: rest => ofDigits (value * 10 + digitValue c) rest

theorem le_ofDigits (value : Nat) (digits : List Char) : value ≤ ofDigits value digits := by
  induction digits generalizing value with
  | nil => exact Nat.le_refl _
  | cons c rest ih =>
    rw [ofDigits]
    exact Nat.le_trans (by omega) (ih _)

/-- Digits that fit are all taken. -/
theorem absorb_of_fits {value : Nat} {digits : List Char}
    (h : ofDigits value digits ≤ wordLimit) : absorb value digits = (ofDigits value digits, []) := by
  induction digits generalizing value with
  | nil => rfl
  | cons c rest ih =>
    rw [ofDigits] at h
    have fits : ¬ wordLimit < value * 10 + digitValue c :=
      Nat.not_lt.2 (Nat.le_trans (le_ofDigits _ rest) h)
    rw [absorb, ofDigits, if_neg fits, ih h]

/-- Ten to a power. -/
def tenTo (n : Nat) : Double := Binary.ofNat (Decimal.power n)

/-- A number times ten to a power, in steps of at most `10 ^ 308`; nothing if it is too
large. -/
def scaled (v : Double) (exponent : Int) : Option Double :=
  if exponent.natAbs ≤ 308 then
    if 0 ≤ exponent then
      match v * tenTo exponent.natAbs with
      | .infinity _ => none
      | product => some product
    else some (v / tenTo exponent.natAbs)
  else if v = Binary.zero then some v
  else if 0 ≤ exponent then none
  else scaled (v / tenTo 308) (exponent + 308)
termination_by exponent.natAbs
decreasing_by omega

/-- The number `± digits * 10 ^ exponent`. -/
def floatNumber (negative : Bool) (digits : Nat) (exponent : Int) : Reader Number :=
  match scaled (Binary.ofNat digits) exponent with
  | none => stop .numberOutOfRange
  | some v => pure (.float (if negative then -v else v))

/-- The exponent that digits write, or the digits after the one at which it leaves 31
bits. -/
def exponentOf (value : Nat) : List Char → Nat ⊕ List Char
  | [] => .inl value
  | c :: rest =>
    if 1 <<< 31 ≤ value * 10 + digitValue c then .inr rest
    else exponentOf (value * 10 + digitValue c) rest

/-- Read an exponent, from its letter on. -/
def exponentPart (negative : Bool) (digits : Nat) (exponent : Int) : Reader Number := do
  skip
  let raised ←
    match (← look).head? with
    | some '+' => do skip; pure true
    | some '-' => do skip; pure false
    | _ => pure true
  match (← look).head? with
  | none => stop .endInValue
  | some c =>
    if !isDigit c then stopAfter .badNumber
    else
      let written ← takeAll isDigit
      match exponentOf 0 written with
      | .inl power => floatNumber negative digits (exponent + if raised then (power : Int) else -(power : Int))
      | .inr unread =>
        if digits ≠ 0 ∧ raised then
          fun s => stop .numberOutOfRange (unread ++ s)
        else pure (.float (if negative then -Binary.zero else Binary.zero))

/-- Read what follows the digits of a number, if it is an exponent. -/
def afterDigits (negative : Bool) (digits : Nat) (exponent : Int) : Reader Number := do
  match (← look).head? with
  | some 'e' | some 'E' => exponentPart negative digits exponent
  | _ => floatNumber negative digits exponent

/-- Read a fraction, from its point on. -/
def fractionPart (negative : Bool) (digits : Nat) (exponent : Int) : Reader Number := do
  skip
  let written ← takeAll isDigit
  if written.isEmpty then
    match (← look).head? with
    | none => stopAfter .endInValue
    | some _ => stopAfter .badNumber
  else
    let (taken, unread) := absorb digits written
    afterDigits negative taken (exponent - ((written.length - unread.length : Nat) : Int))

/-- The whole number of a sign and digits. A negative zero and what does not fit 64 bits
with a sign are floating point numbers. -/
def wholeNumber (negative : Bool) (digits : Nat) : Number :=
  if !negative then .integer digits
  else if digits = 0 ∨ 1 <<< 63 < digits then .float (-Binary.ofNat digits)
  else .integer (-digits)

/-- Read what follows the digits before the point, `dropped` of which did not fit. -/
def afterWhole (negative : Bool) (digits dropped : Nat) : Reader Number := do
  match (← look).head? with
  | some '.' => fractionPart negative digits dropped
  | some 'e' | some 'E' => exponentPart negative digits dropped
  | _ =>
    if dropped = 0 then return wholeNumber negative digits
    else floatNumber negative digits dropped

/-- Read a number after its sign. -/
def unsigned (negative : Bool) : Reader Number := do
  match ← look with
  | [] => stop .endInValue
  | '0' :: rest =>
    skip
    if (rest.head?.map isDigit).getD false then stopAfter .badNumber
    else afterWhole negative 0 0
  | c :: _ =>
    if isDigit c then
      let written ← takeAll isDigit
      let (digits, unread) := absorb 0 written
      afterWhole negative digits unread.length
    else stopAfter .badNumber

namespace Reader

/-- Read a number. -/
def number : Reader Number := do
  match (← look).head? with
  | some '-' => do skip; unsigned true
  | _ => unsigned false

end Reader

/-- Pass over an exponent, from its letter on. -/
def passExponent : Reader Unit := do
  skip
  match (← look).head? with
  | some '+' | some '-' => skip
  | _ => pure ()
  let written ← takeAll isDigit
  if written.isEmpty then stopAfter .badNumber

/-- Pass over a fraction, from its point on. -/
def passFraction : Reader Unit := do
  skip
  let written ← takeAll isDigit
  if written.isEmpty then stopAfter .badNumber
  else
    match (← look).head? with
    | some 'e' | some 'E' => passExponent
    | _ => pure ()

/-- Pass over what follows the digits before the point. -/
def passAfterWhole : Reader Unit := do
  match (← look).head? with
  | some '.' => passFraction
  | some 'e' | some 'E' => passExponent
  | _ => pure ()

/-- Pass over a number after its sign; its size does not matter. -/
def passUnsigned : Reader Unit := do
  match ← look with
  | [] => stop .badNumber
  | '0' :: rest =>
    skip
    if (rest.head?.map isDigit).getD false then stopAfter .badNumber
    else passAfterWhole
  | c :: _ =>
    if isDigit c then
      let _ ← takeAll isDigit
      passAfterWhole
    else stopAfter .badNumber

namespace Reader

/-- Pass over a number. -/
def passNumber : Reader Unit := do
  match (← look).head? with
  | some '-' => do skip; passUnsigned
  | _ => passUnsigned

end Reader

end Tint.Json
