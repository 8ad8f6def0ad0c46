import Tint.Rounding

/-!
# Binary floating point numbers

Numbers of a binary interchange format with exact, reproducible arithmetic. Every
finite number of a format is a whole number of *steps*, where one step is the
least positive number of the format, so a finite number is kept as a sign and a
count of steps. An operation takes the exact result as a quotient of naturals and
rounds it once, to the nearest number of the format, a tie to the even one.

## The model

* `Format` has the number of significant bits, the size of a step and the bound of
  the finite numbers; `single` and `double` are the two formats in use.
* `Binary f` is `nan`, an infinity, or a sign with a count of steps. There is one
  `nan`, and two zeros.
* `Binary.nearest` rounds a quotient, counted in steps; `Binary.round` gives it a
  sign and lets what is too large become an infinity.
* Each number has one form, so that equality of values is equality of encodings
  (up to the payload of a `nan`).
-/

namespace Tint

open Rounding

/-- A binary floating point format. -/
structure Format where
  /-- The number of significant bits. -/
  precision : Nat
  /-- The least positive number is `2 ^ (-step)`. -/
  step : Nat
  /-- Finite numbers are below `2 ^ bound` steps. -/
  bound : Nat
deriving DecidableEq, Repr

/-- The format of 32 bits. -/
def Format.single : Format := ⟨24, 149, 277⟩

/-- The format of 64 bits. -/
def Format.double : Format := ⟨53, 1074, 2098⟩

/-- A number of the format `f`. -/
inductive Binary (f : Format) where
  /-- Not a number. -/
  | nan
  /-- An infinity, with its sign. -/
  | infinity (negative : Bool)
  /-- A sign and a count of steps; a zero keeps its sign. -/
  | finite (negative : Bool) (steps : Nat)
deriving DecidableEq, Repr

/-- A number of 32 bits. -/
abbrev Single := Binary Format.single

/-- A number of 64 bits. -/
abbrev Double := Binary Format.double

namespace Binary

variable {f : Format}

instance : Inhabited (Binary f) := ⟨.finite false 0⟩

/-! ### Rounding -/

/-- The number of low bits that do not fit the significand of a magnitude of
`steps` steps. -/
def excess (f : Format) (steps : Nat) : Nat := steps.log2 + 1 - f.precision

/-- The count of steps of the number nearest to the quotient `num / den` of steps,
a tie going to the number whose last significant bit is zero. The range of the
format is not looked at. -/
def nearest (f : Format) (num den : Nat) : Nat :=
  let drop := excess f (num / den)
  divEven num (den <<< drop) <<< drop

/-- The number nearest to `± num / den` steps. What reaches the bound of the format
is an infinity. -/
def round (f : Format) (negative : Bool) (num den : Nat) : Binary f :=
  let steps := nearest f num den
  if 1 <<< f.bound ≤ steps then .infinity negative else .finite negative steps

/-- The number nearest to the natural `n`. -/
def ofNat (n : Nat) : Binary f := round f false (n <<< f.step) 1

/-- The number nearest to the integer `n`. -/
def ofInt (n : Int) : Binary f := round f (n < 0) (n.natAbs <<< f.step) 1

/-- The number nearest to the quotient `num / den`. -/
def ofRatio (num den : Nat) : Binary f := round f false (num <<< f.step) den

/-- Zero. -/
def zero : Binary f := .finite false 0

/-! ### Tests and order -/

/-- The number is not a number. -/
def isNaN : Binary f → Bool
  | nan => true
  | _ => false

/-- The count of steps with its sign. -/
def signed (negative : Bool) (steps : Nat) : Int :=
  if negative then -steps else steps

/-- The order of numbers. A `nan` is below nothing and above nothing, and the two
zeros are not below each other. -/
def lt : Binary f → Binary f → Bool
  | nan, _ => false
  | _, nan => false
  | infinity s, infinity t => s && !t
  | infinity s, finite .. => s
  | finite .., infinity t => !t
  | finite s m, finite t n => signed s m < signed t n

/-- The order with equality: the zeros are equal, a `nan` equals nothing. -/
def le (a b : Binary f) : Bool := !a.isNaN && !b.isNaN && !b.lt a

/-- The larger of two numbers; of a number and a `nan`, the number. -/
def max (a b : Binary f) : Binary f :=
  if a.isNaN then b else if a.lt b then b else a

/-- The smaller of two numbers; of a number and a `nan`, the number. -/
def min (a b : Binary f) : Binary f :=
  if a.isNaN then b else if b.lt a then b else a

/-- The number held between two bounds. A `nan` is kept, and so is a zero of
either sign at a bound of zero. -/
def clamp (a low high : Binary f) : Binary f :=
  let raised := if a.lt low then low else a
  if high.lt raised then high else raised

/-! ### Arithmetic -/

/-- The number with the other sign. -/
def neg : Binary f → Binary f
  | nan => nan
  | infinity s => infinity (!s)
  | finite s m => finite (!s) m

/-- The sum, rounded once. A sum of zero is negative only if both terms are. -/
def add : Binary f → Binary f → Binary f
  | nan, _ => nan
  | _, nan => nan
  | infinity s, infinity t => if s = t then infinity s else nan
  | infinity s, finite .. => infinity s
  | finite .., infinity t => infinity t
  | finite s m, finite t n =>
    let total := signed s m + signed t n
    if total = 0 then finite (s && t) 0 else round f (total < 0) total.natAbs 1

/-- The difference, rounded once. -/
def sub (a b : Binary f) : Binary f := a.add b.neg

/-- The product, rounded once. -/
def mul : Binary f → Binary f → Binary f
  | nan, _ => nan
  | _, nan => nan
  | infinity s, infinity t => infinity (s != t)
  | infinity s, finite t n => if n = 0 then nan else infinity (s != t)
  | finite s m, infinity t => if m = 0 then nan else infinity (s != t)
  | finite s m, finite t n => round f (s != t) (m * n) (1 <<< f.step)

/-- The quotient, rounded once. -/
def div : Binary f → Binary f → Binary f
  | nan, _ => nan
  | _, nan => nan
  | infinity _, infinity _ => nan
  | infinity s, finite t _ => infinity (s != t)
  | finite s _, infinity t => finite (s != t) 0
  | finite s m, finite t n =>
    if n = 0 then (if m = 0 then nan else infinity (s != t))
    else round f (s != t) (m <<< f.step) n

instance : Neg (Binary f) := ⟨neg⟩
instance : Add (Binary f) := ⟨add⟩
instance : Sub (Binary f) := ⟨sub⟩
instance : Mul (Binary f) := ⟨mul⟩
instance : Div (Binary f) := ⟨div⟩

/-! ### Whole numbers

A number becomes a natural below `limit` by saturation: what is negative becomes
zero and what is too large becomes `limit`; a `nan` becomes zero. -/

/-- The magnitude `steps` as a natural, by a rule for quotients. -/
def whole (f : Format) (rule : Nat → Nat → Nat) (steps : Nat) : Nat := rule steps (1 <<< f.step)

/-- The number as a natural of at most `limit`, its magnitude taken by `rule`. -/
def toNatBy (rule : Nat → Nat → Nat) (limit : Nat) : Binary f → Nat
  | nan => 0
  | infinity negative => if negative then 0 else limit
  | finite negative steps => if negative then 0 else Nat.min (whole f rule steps) limit

/-- The integer part, saturated to `0 … limit`. -/
def floorTo (limit : Nat) (a : Binary f) : Nat := a.toNatBy (· / ·) limit

/-- The nearest natural, a tie to the even one, saturated to `0 … limit`. -/
def roundEvenTo (limit : Nat) (a : Binary f) : Nat := a.toNatBy divEven limit

/-- The nearest natural, a tie away from zero, saturated to `0 … limit`. -/
def roundAwayTo (limit : Nat) (a : Binary f) : Nat := a.toNatBy divHalfUp limit

/-! ### The encoding in bits

The bits of a magnitude are a biased exponent followed by the significand without
its leading one, and they grow with the magnitude. -/

/-- The exponent field of infinities and of `nan`, one above that of the largest
finite numbers. -/
def topExponent (f : Format) : Nat := f.bound - f.precision + 2

/-- The number of bits of the exponent field and of the fraction field together. -/
def magnitudeBits (f : Format) : Nat := f.precision + (topExponent f).log2

/-- The encoding of a magnitude. -/
def encode (f : Format) (steps : Nat) : Nat :=
  let drop := excess f steps
  drop <<< (f.precision - 1) + steps >>> drop

/-- The magnitude that an encoding below that of the infinities stands for. -/
def decode (f : Format) (bits : Nat) : Nat :=
  let one := 1 <<< (f.precision - 1)
  let exponent := bits / one
  if exponent = 0 then bits else (bits % one + one) <<< (exponent - 1)

/-- The bits of a number; a `nan` has the leading fraction bit set. -/
def toBits (a : Binary f) : Nat :=
  let signBit := 1 <<< magnitudeBits f
  let top := topExponent f <<< (f.precision - 1)
  match a with
  | nan => top + 1 <<< (f.precision - 2)
  | infinity negative => (if negative then signBit else 0) + top
  | finite negative steps => (if negative then signBit else 0) + encode f steps

/-- The number that bits stand for. -/
def ofBits (bits : Nat) : Binary f :=
  let signBit := 1 <<< magnitudeBits f
  let negative := bits / signBit % 2 = 1
  let magnitude := bits % signBit
  let top := topExponent f <<< (f.precision - 1)
  if magnitude < top then finite negative (decode f magnitude)
  else if magnitude = top then infinity negative
  else nan

end Binary

end Tint
