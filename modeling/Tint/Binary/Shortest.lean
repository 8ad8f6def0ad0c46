import Tint.Binary

/-!
# The shortest decimal that reads back

A finite number is written with the fewest decimal digits that read back to it.
Reading rounds to the nearest number of the format, so a decimal reads back exactly
when `Binary.nearest` of it is the number. On the grid of `n` significant digits
only the two neighbours of the number are tried, the nearer one first: if any point
of a grid reads back, one of these two does. Of two that are equally near the even
one is taken.
-/

namespace Tint

/-- A decimal `digits * 10 ^ exponent`. -/
structure Decimal where
  /-- The digits, as a natural. -/
  digits : Nat
  /-- The power of ten of the last digit. -/
  exponent : Int
deriving DecidableEq, Repr

namespace Decimal

/-- The decimal digits of `n`, without leading zeros. -/
def text (n : Nat) : List Char := Nat.toDigits 10 n

/-- A power of ten. -/
def power (exponent : Nat) : Nat := Nat.pow 10 exponent

/-- The decimal as a quotient of naturals. -/
def ratio (d : Decimal) : Nat × Nat :=
  if d.exponent < 0 then (d.digits, power (-d.exponent).toNat)
  else (d.digits * power d.exponent.toNat, 1)

/-- The decimal reads as the magnitude of `steps` steps in the format `f`. -/
def reads (f : Format) (d : Decimal) (steps : Nat) : Bool :=
  Binary.nearest f (d.ratio.1 <<< f.step) d.ratio.2 = steps

/-- The power of ten of the leading digit of the positive quotient `num / den`. -/
def leading (num den : Nat) : Int :=
  let guess := (text num).length - ((text den).length : Int)
  let reached :=
    if guess < 0 then den ≤ num * power (-guess).toNat else den * power guess.toNat ≤ num
  if reached then guess else guess - 1

/-- The two neighbours of `num / den` on the grid of the multiples of
`10 ^ exponent`, the nearer one first, or the even one if both are equally near. -/
def neighbours (num den : Nat) (exponent : Int) : List Decimal :=
  let upper := if exponent < 0 then num * power (-exponent).toNat else num
  let lower := if exponent < 0 then den else den * power exponent.toNat
  let low : Decimal := ⟨upper / lower, exponent⟩
  let high : Decimal := ⟨upper / lower + 1, exponent⟩
  let twice := 2 * (upper % lower)
  if twice < lower ∨ (twice = lower ∧ low.digits % 2 = 0) then [low, high] else [high, low]

/-- The decimal without zeros at the end of its digits. -/
def trimmed (d : Decimal) : Decimal :=
  if d.digits ≠ 0 ∧ d.digits % 10 = 0 then trimmed ⟨d.digits / 10, d.exponent + 1⟩ else d
termination_by d.digits
decreasing_by omega

/-- The decimal with the fewest significant digits, and at most `places`, that reads
as the magnitude of `steps` steps; among those the nearest one. -/
def shortest (f : Format) (steps : Nat) (places : Nat) : Decimal :=
  let top := leading steps (1 <<< f.step)
  let grids := (List.range places).map fun (n : Nat) => top - (n : Int)
  let candidates := grids.flatMap (neighbours steps (1 <<< f.step))
  ((candidates.find? (·.reads f steps)).getD ⟨steps, -(f.step : Int)⟩).trimmed

end Decimal

end Tint
