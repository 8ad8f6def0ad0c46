/-!
# Naturals as text

A natural of bounded size as text: digits, with a plus sign in front of them or not.
Leading zeros do not matter.
-/

namespace Tint

/-- Why text is not a natural up to a limit. -/
inductive NaturalError where
  /-- There is no character. -/
  | empty
  /-- There is a character that is no digit, or no digit after the sign. -/
  | notDigit
  /-- The number is above the limit. -/
  | tooLarge
deriving DecidableEq, Repr

/-- The wording of the error. -/
def NaturalError.text : NaturalError → String
  | empty => "cannot parse integer from empty string"
  | notDigit => "invalid digit found in string"
  | tooLarge => "number too large to fit in target type"

namespace Text

/-- The value of the character as a decimal digit: the last four bits of its code. -/
def digit? (c : Char) : Option Nat :=
  if '0' ≤ c ∧ c ≤ '9' then some (c.toNat % 16) else none

/-- The number that digits continue, `value` being that of the digits before. The first
fault from the left counts. -/
def naturalOfDigits (limit value : Nat) : List Char → Except NaturalError Nat
  | [] => .ok value
  | c :: rest =>
    match digit? c with
    | none => .error .notDigit
    | some d =>
      if limit < value * 10 + d then .error .tooLarge
      else naturalOfDigits limit (value * 10 + d) rest

/-- The natural that text writes: a plus sign if there is one, then digits. -/
def natural (limit : Nat) : List Char → Except NaturalError Nat
  | [] => .error .empty
  | ['+'] => .error .notDigit
  | '+' :: digits => naturalOfDigits limit 0 digits
  | digits => naturalOfDigits limit 0 digits

end Text

end Tint
