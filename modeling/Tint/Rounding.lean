/-!
# Rounding quotients

A quotient of naturals rounded to the nearest natural, under the two rules for a
tie that the library uses: to the even neighbour, for arithmetic on binary
floating point numbers, and away from zero, for samples that become bytes.

## What is proved

* `divEven_mul`: a quotient without a remainder is not changed.
* `two_mul_divEven_le` and `le_two_mul_divEven`: the rounded quotient is at most
  half away from the exact one, on either side.
-/

namespace Tint.Rounding

/-- The quotient `num / den` rounded to the nearest natural, a tie to the even one. -/
def divEven (num den : Nat) : Nat :=
  let quotient := num / den
  let twice := 2 * (num % den)
  if twice < den then quotient
  else if den < twice then quotient + 1
  else if quotient % 2 = 0 then quotient
  else quotient + 1

/-- The quotient `num / den` rounded to the nearest natural, a tie upward. -/
def divHalfUp (num den : Nat) : Nat :=
  (2 * num + den) / (2 * den)

theorem divEven_mul (n : Nat) {den : Nat} (h : 0 < den) : divEven (n * den) den = n := by
  simp [divEven, Nat.mul_div_cancel _ h, h]

/-- The rounded quotient exceeds the exact one by half at most. -/
theorem two_mul_divEven_le (num den : Nat) :
    2 * (divEven num den * den) ≤ 2 * num + den := by
  have h := Nat.div_add_mod num den
  have comm := Nat.mul_comm den (num / den)
  have step : (num / den + 1) * den = num / den * den + den := Nat.succ_mul ..
  simp only [divEven]
  split
  · omega
  · split
    · omega
    · split <;> omega

/-- The rounded quotient falls short of the exact one by half at most. -/
theorem le_two_mul_divEven (num : Nat) {den : Nat} (pos : 0 < den) :
    2 * num ≤ 2 * (divEven num den * den) + den := by
  have h := Nat.div_add_mod num den
  have small := Nat.mod_lt num pos
  have comm := Nat.mul_comm den (num / den)
  have step : (num / den + 1) * den = num / den * den + den := Nat.succ_mul ..
  simp only [divEven]
  split
  · omega
  · split
    · omega
    · split <;> omega

end Tint.Rounding
