import Tint.Binary
import Mathlib.Algebra.Order.Field.Rat
import Mathlib.Data.Rat.Cast.Order
import Mathlib.Tactic.FieldSimp
import Mathlib.Tactic.Linarith
import Mathlib.Tactic.NormNum
import Mathlib.Tactic.Positivity
import Mathlib.Tactic.Ring

/-!
# Rounding to a binary format

`Format.near` is the rounding of a format as a function on the rationals, without regard
to the range. It is made from `Binary.nearest`, the rounding that the arithmetic runs, so
that what is proved of it here holds of the arithmetic.

Rounding keeps the order (`near_mono`), keeps a number that fits the significand
(`near_of_fits`), so that a second rounding changes nothing (`near_near`), and moves a number
by at most half a unit of its last place, which is a part `2 ^ (-precision)` of the number or
half a step (`abs_near_sub_le`).
-/

namespace Tint

/-- A format with a significand. -/
class Format.Proper (f : Format) : Prop where
  /-- There is a significant bit. -/
  precision_pos : 0 < f.precision
  /-- Whole numbers are in range. -/
  step_lt : f.step < f.bound

instance : Format.single.Proper := ⟨by decide, by decide⟩

namespace Rounding

/-! ### Quotients -/

theorem div_le_div_of_mul_le {a b c d : ℕ} (hb : 0 < b) (hd : 0 < d) (h : a * d ≤ c * b) :
    a / b ≤ c / d := by
  rw [Nat.le_div_iff_mul_le hd]
  refine Nat.le_of_mul_le_mul_right ?_ hb
  calc a / b * d * b = a / b * b * d := by ring
    _ ≤ a * d := Nat.mul_le_mul_right d (Nat.div_mul_le_self a b)
    _ ≤ c * b := h

theorem div_le_divEven (num den : ℕ) : num / den ≤ divEven num den := by
  simp only [divEven]
  split_ifs <;> omega

theorem divEven_le (num den : ℕ) : divEven num den ≤ num / den + 1 := by
  simp only [divEven]
  split_ifs <;> omega

/-- A larger quotient is not rounded to less. -/
theorem divEven_mono {a b c d : ℕ} (hb : 0 < b) (hd : 0 < d) (h : a * d ≤ c * b) :
    divEven a b ≤ divEven c d := by
  rcases Nat.lt_or_eq_of_le (div_le_div_of_mul_le hb hd h) with lt | eq
  · exact (divEven_le a b).trans (lt.trans_le (div_le_divEven c d))
  · -- With equal quotients the remainders decide, and they are in the same order.
    have ha := Nat.div_add_mod a b
    have hc := Nat.div_add_mod c d
    rw [← eq] at hc
    have rests : a % b * d ≤ c % d * b := by nlinarith
    simp only [divEven, ← eq]
    split_ifs with h1 h2 h3 h4 h5 h6 h7 <;> first | omega | nlinarith

end Rounding

namespace Binary

open Rounding

variable {f : Format}

/-! ### The significand of a magnitude -/

theorem lt_two_pow_excess (f : Format) (n : ℕ) : n < 2 ^ (f.precision + excess f n) := by
  refine Nat.lt_of_lt_of_le Nat.lt_log2_self (Nat.pow_le_pow_right two_pos ?_)
  simp only [excess]
  omega

theorem excess_le [f.Proper] {n k : ℕ} (h : n < 2 ^ (f.precision + k)) : excess f n ≤ k := by
  have pos := Format.Proper.precision_pos (f := f)
  by_cases hn : n = 0
  · simp only [hn, excess, Nat.log2_zero]
    omega
  · have := (Nat.log2_lt hn).2 h
    simp only [excess]
    omega

/-- A magnitude that drops bits has its leading bit at the top of its significand. -/
theorem two_pow_excess_le [f.Proper] {n : ℕ} (h : 0 < excess f n) :
    2 ^ (f.precision - 1 + excess f n) ≤ n := by
  have pos := Format.Proper.precision_pos (f := f)
  have nonzero : n ≠ 0 := by
    rintro rfl
    simp only [excess, Nat.log2_zero] at h
    omega
  rw [← Nat.le_log2 nonzero]
  simp only [excess] at h ⊢
  omega

theorem excess_mono {m n : ℕ} (h : m ≤ n) : excess f m ≤ excess f n := by
  have : m.log2 ≤ n.log2 := by
    by_cases hm : m = 0
    · simp [hm]
    · rw [Nat.le_log2 (by omega)]
      exact (Nat.log2_self_le hm).trans h
  simp only [excess]
  omega

theorem nearest_eq (f : Format) (num den : ℕ) :
    nearest f num den =
      divEven num (den * 2 ^ excess f (num / den)) * 2 ^ excess f (num / den) := by
  simp [nearest, Nat.shiftLeft_eq]

/-- A significand is rounded to at most the next power of two. -/
theorem nearest_le (f : Format) (num : ℕ) {den : ℕ} (pos : 0 < den) :
    nearest f num den ≤ 2 ^ (f.precision + excess f (num / den)) := by
  set k := excess f (num / den) with hk
  have small : num < den * 2 ^ (f.precision + k) := by
    rw [mul_comm, ← Nat.div_lt_iff_lt_mul pos]
    exact lt_two_pow_excess f (num / den)
  have unit : 0 < den * 2 ^ k := by positivity
  have rounded : divEven num (den * 2 ^ k) ≤ 2 ^ f.precision := by
    rw [← divEven_mul (2 ^ f.precision) unit]
    refine divEven_mono unit unit (Nat.mul_le_mul_right _ ?_)
    calc num ≤ den * 2 ^ (f.precision + k) := small.le
      _ = 2 ^ f.precision * (den * 2 ^ k) := by ring
  rw [nearest_eq, ← hk, pow_add]
  exact Nat.mul_le_mul_right _ rounded

/-- A magnitude that drops bits is not rounded below its binade. -/
theorem le_nearest [f.Proper] (num : ℕ) {den : ℕ} (pos : 0 < den)
    (h : 0 < excess f (num / den)) :
    2 ^ (f.precision - 1 + excess f (num / den)) ≤ nearest f num den := by
  set k := excess f (num / den) with hk
  have large : 2 ^ (f.precision - 1 + k) * den ≤ num := by
    rw [← Nat.le_div_iff_mul_le pos]
    exact two_pow_excess_le h
  have unit : 0 < den * 2 ^ k := by positivity
  have rounded : 2 ^ (f.precision - 1) ≤ divEven num (den * 2 ^ k) := by
    rw [← divEven_mul (2 ^ (f.precision - 1)) unit]
    refine divEven_mono unit unit (Nat.mul_le_mul_right _ ?_)
    calc 2 ^ (f.precision - 1) * (den * 2 ^ k) = 2 ^ (f.precision - 1 + k) * den := by ring
      _ ≤ num := large
  rw [nearest_eq, ← hk, pow_add]
  exact Nat.mul_le_mul_right _ rounded

/-- A larger quotient is not rounded to less. -/
theorem nearest_mono [f.Proper] {a b c d : ℕ} (hb : 0 < b) (hd : 0 < d) (h : a * d ≤ c * b) :
    nearest f a b ≤ nearest f c d := by
  rcases Nat.lt_or_eq_of_le (excess_mono (f := f) (div_le_div_of_mul_le hb hd h)) with lt | eq
  · -- The power of two between the two binades separates the results.
    calc nearest f a b ≤ 2 ^ (f.precision + excess f (a / b)) := nearest_le f a hb
      _ ≤ 2 ^ (f.precision - 1 + excess f (c / d)) :=
        Nat.pow_le_pow_right two_pos (by omega)
      _ ≤ nearest f c d := le_nearest c hd (by omega)
  · rw [nearest_eq, nearest_eq, ← eq]
    refine Nat.mul_le_mul_right _ (divEven_mono (by positivity) (by positivity) ?_)
    calc a * (d * 2 ^ excess f (a / b)) = a * d * 2 ^ excess f (a / b) := by ring
      _ ≤ c * b * 2 ^ excess f (a / b) := Nat.mul_le_mul_right _ h
      _ = c * (b * 2 ^ excess f (a / b)) := by ring

theorem nearest_congr [f.Proper] {a b c d : ℕ} (hb : 0 < b) (hd : 0 < d) (h : a * d = c * b) :
    nearest f a b = nearest f c d :=
  le_antisymm (nearest_mono hb hd h.le) (nearest_mono hd hb h.ge)

/-! ### Magnitudes of the format -/

/-- The magnitude is one of the format: what its significand has no room for is zero. -/
def Fits (f : Format) (n : ℕ) : Prop := 2 ^ excess f n ∣ n

/-- A significand with zeros behind it fits. -/
theorem fits_mul_two_pow [f.Proper] {m : ℕ} (e : ℕ) (h : m ≤ 2 ^ f.precision) :
    Fits f (m * 2 ^ e) := by
  rcases Nat.lt_or_eq_of_le h with lt | rfl
  · have below : m * 2 ^ e < 2 ^ (f.precision + e) := by
      rw [pow_add]
      exact Nat.mul_lt_mul_of_pos_right lt (by positivity)
    exact (pow_dvd_pow 2 (excess_le below)).trans (Dvd.intro_left m rfl)
  · -- The next power of two drops one bit more, and that bit is zero.
    have pos := Format.Proper.precision_pos (f := f)
    have top : excess f (2 ^ f.precision * 2 ^ e) = e + 1 := by
      rw [← pow_add, excess, Nat.log2_two_pow]
      omega
    rw [Fits, top, ← pow_add]
    exact pow_dvd_pow 2 (by omega)

theorem fits_two_pow [f.Proper] (e : ℕ) : Fits f (2 ^ e) := by
  simpa using fits_mul_two_pow (f := f) e Nat.one_le_two_pow

theorem fits_nearest [f.Proper] (num : ℕ) {den : ℕ} (pos : 0 < den) :
    Fits f (nearest f num den) := by
  rw [nearest_eq]
  refine fits_mul_two_pow _ ?_
  have := nearest_le f num pos
  rw [nearest_eq, pow_add] at this
  exact Nat.le_of_mul_le_mul_right this (by positivity)

/-- A quotient less than half a unit above a magnitude of the format is rounded to it. -/
theorem nearest_add [f.Proper] {n rest den : ℕ} (fits : Fits f n)
    (small : 2 * rest < den * 2 ^ excess f n) : nearest f (n * den + rest) den = n := by
  obtain ⟨c, hc⟩ := fits
  have range := lt_two_pow_excess f n
  set k := excess f n with hk
  have pos : 0 < den := Nat.pos_of_ne_zero fun h => by simp [h] at small
  have unit : 0 < den * 2 ^ k := by positivity
  have below : rest / den < 2 ^ k := by
    rw [Nat.div_lt_iff_lt_mul pos, mul_comm]
    omega
  have binade : excess f ((n * den + rest) / den) = k := by
    rw [Nat.mul_comm n, Nat.mul_add_div pos]
    refine le_antisymm (excess_le ?_) (hk ▸ excess_mono (Nat.le_add_right ..))
    have room : c + 1 ≤ 2 ^ f.precision := by
      rw [hc, pow_add, mul_comm] at range
      exact Nat.lt_of_mul_lt_mul_right range
    calc n + rest / den < 2 ^ k * (c + 1) := by rw [hc, Nat.mul_succ]; omega
      _ ≤ 2 ^ k * 2 ^ f.precision := Nat.mul_le_mul_left _ room
      _ = 2 ^ (f.precision + k) := by rw [pow_add, mul_comm]
  have split : n * den + rest = den * 2 ^ k * c + rest := by rw [hc]; ring
  have quotient : (n * den + rest) / (den * 2 ^ k) = c := by
    rw [split, Nat.mul_add_div unit, Nat.div_eq_of_lt (by omega), Nat.add_zero]
  have remainder : (n * den + rest) % (den * 2 ^ k) = rest := by
    rw [split, Nat.mul_add_mod, Nat.mod_eq_of_lt (by omega)]
  rw [nearest_eq, binade, divEven, quotient, remainder, if_pos small, hc, mul_comm]

/-- A magnitude of the format is rounded to itself. -/
theorem nearest_mul [f.Proper] {n den : ℕ} (fits : Fits f n) (pos : 0 < den) :
    nearest f (n * den) den = n :=
  nearest_add fits (show 2 * 0 < den * 2 ^ excess f n by positivity)

/-- The rounded quotient is half a unit away at most. -/
theorem abs_nearest_sub_le_unit (num : ℕ) {den : ℕ} (pos : 0 < den) :
    |(nearest f num den : ℚ) - num / den| ≤ 2 ^ excess f (num / den) / 2 := by
  set k := excess f (num / den) with hk
  have upper := two_mul_divEven_le num (den * 2 ^ k)
  have lower := le_two_mul_divEven num (show 0 < den * 2 ^ k by positivity)
  have whole : nearest f num den * den = divEven num (den * 2 ^ k) * (den * 2 ^ k) := by
    rw [nearest_eq, ← hk]
    ring
  rw [← whole] at upper lower
  have hden : (0 : ℚ) < den := by exact_mod_cast pos
  have upper' : (2 * (nearest f num den * den) : ℚ) ≤ 2 * num + den * 2 ^ k := by
    exact_mod_cast upper
  have lower' : (2 * num : ℚ) ≤ 2 * (nearest f num den * den) + den * 2 ^ k := by
    exact_mod_cast lower
  rw [abs_sub_le_iff, sub_le_iff_le_add, sub_le_iff_le_add, ← sub_le_iff_le_add',
    le_div_iff₀ hden, div_le_iff₀ hden]
  constructor <;> linarith

/-- A unit is a step, or it is a part `2 ^ (1 - precision)` of the quotient at most. -/
theorem two_pow_excess_half_le [f.Proper] (num : ℕ) {den : ℕ} (pos : 0 < den) :
    (2 : ℚ) ^ excess f (num / den) / 2 ≤ num / den / 2 ^ f.precision + 1 / 2 := by
  set k := excess f (num / den) with hk
  rcases Nat.eq_zero_or_pos k with zero | dropped
  · have : (0 : ℚ) ≤ num / den / 2 ^ f.precision := by positivity
    rw [zero]
    linarith
  · have large : 2 ^ (f.precision - 1 + k) * den ≤ num := by
      rw [← Nat.le_div_iff_mul_le pos]
      exact two_pow_excess_le dropped
    have bits : 2 ^ k * 2 ^ f.precision = 2 * 2 ^ (f.precision - 1 + k) := by
      have := Format.Proper.precision_pos (f := f)
      rw [← pow_succ', ← pow_add]
      congr 1
      omega
    have scaled : (2 : ℚ) ^ k * 2 ^ f.precision = 2 * 2 ^ (f.precision - 1 + k) := by
      exact_mod_cast bits
    have quotient : (2 : ℚ) ^ (f.precision - 1 + k) ≤ num / den := by
      rw [le_div_iff₀ (by exact_mod_cast pos)]
      exact_mod_cast large
    calc (2 : ℚ) ^ k / 2 = 2 ^ (f.precision - 1 + k) / 2 ^ f.precision := by
          rw [div_eq_div_iff (by positivity) (by positivity)]
          linarith
      _ ≤ num / den / 2 ^ f.precision := by gcongr
      _ ≤ num / den / 2 ^ f.precision + 1 / 2 := by norm_num

/-- The rounded quotient is off by a part of the quotient, or by half a step. -/
theorem abs_nearest_sub_le [f.Proper] (num : ℕ) {den : ℕ} (pos : 0 < den) :
    |(nearest f num den : ℚ) - num / den| ≤ num / den / 2 ^ f.precision + 1 / 2 :=
  (abs_nearest_sub_le_unit num pos).trans (two_pow_excess_half_le num pos)

end Binary

/-! ### Rationals -/

namespace Format

open Binary

variable {f : Format}

/-- The number of the format nearest to a rational, whatever the range. -/
def near (f : Format) (x : ℚ) : ℚ :=
  (if x < 0 then -1 else 1) * (nearest f (x.num.natAbs * 2 ^ f.step) x.den / 2 ^ f.step)

theorem cast_natAbs_num {x : ℚ} (h : 0 ≤ x) : (x.num.natAbs : ℚ) = x.num := by
  rw [Nat.cast_natAbs, abs_of_nonneg (Rat.num_nonneg.2 h)]

theorem exists_eq_div {x : ℚ} (h : 0 ≤ x) : ∃ num den : ℕ, 0 < den ∧ x = num / den :=
  ⟨x.num.natAbs, x.den, x.pos, by rw [cast_natAbs_num h, Rat.num_div_den]⟩

/-- Rounding in terms of the arithmetic of the format. -/
theorem near_div [f.Proper] (num : ℕ) {den : ℕ} (pos : 0 < den) :
    f.near (num / den) = nearest f (num * 2 ^ f.step) den / 2 ^ f.step := by
  set x : ℚ := num / den with hx
  have nonneg : 0 ≤ x := by positivity
  have cross : x.num.natAbs * den = num * x.den := by
    have hden : (den : ℚ) ≠ 0 := by exact_mod_cast pos.ne'
    have : (x.num.natAbs : ℚ) * den = num * x.den := by
      rw [cast_natAbs_num nonneg]
      rw [← Rat.num_div_den x] at hx
      rwa [div_eq_div_iff (by exact_mod_cast x.den_nz) hden] at hx
    exact_mod_cast this
  rw [near, if_neg nonneg.not_gt, one_mul]
  congr 2
  refine nearest_congr x.pos pos ?_
  calc x.num.natAbs * 2 ^ f.step * den = x.num.natAbs * den * 2 ^ f.step := by ring
    _ = num * x.den * 2 ^ f.step := by rw [cross]
    _ = num * 2 ^ f.step * x.den := by ring

@[simp] theorem near_zero [f.Proper] : f.near 0 = 0 := by
  have zero : nearest f (0 * 1) 1 = 0 := nearest_mul (by simp [Fits]) one_pos
  rw [near, if_neg (lt_irrefl _), Rat.num_zero, Int.natAbs_zero, Nat.zero_mul, Rat.den_zero]
  simp [zero]

theorem near_neg [f.Proper] (x : ℚ) : f.near (-x) = -f.near x := by
  rcases lt_trichotomy x 0 with neg | rfl | pos
  · simp [near, neg, not_lt.2 (neg_nonneg.2 neg.le)]
  · simp
  · simp [near, pos, not_lt.2 pos.le]

theorem near_nonneg [f.Proper] {x : ℚ} (h : 0 ≤ x) : 0 ≤ f.near x := by
  rw [near, if_neg h.not_gt, one_mul]
  positivity

private theorem near_mono_of_nonneg [f.Proper] {x y : ℚ} (hx : 0 ≤ x) (h : x ≤ y) :
    f.near x ≤ f.near y := by
  obtain ⟨a, b, hb, rfl⟩ := exists_eq_div hx
  obtain ⟨c, d, hd, rfl⟩ := exists_eq_div (hx.trans h)
  rw [div_le_div_iff₀ (by exact_mod_cast hb) (by exact_mod_cast hd)] at h
  have cross : a * d ≤ c * b := by exact_mod_cast h
  rw [near_div a hb, near_div c hd]
  have : nearest f (a * 2 ^ f.step) b ≤ nearest f (c * 2 ^ f.step) d := by
    refine nearest_mono hb hd ?_
    calc a * 2 ^ f.step * d = a * d * 2 ^ f.step := by ring
      _ ≤ c * b * 2 ^ f.step := Nat.mul_le_mul_right _ cross
      _ = c * 2 ^ f.step * b := by ring
  gcongr

/-- Rounding keeps the order. -/
theorem near_mono [f.Proper] {x y : ℚ} (h : x ≤ y) : f.near x ≤ f.near y := by
  rcases le_or_gt 0 x with hx | hx
  · exact near_mono_of_nonneg hx h
  · rcases le_or_gt 0 y with hy | hy
    · have := near_nonneg (f := f) (neg_nonneg.2 hx.le)
      rw [near_neg] at this
      exact (neg_nonneg.1 this).trans (near_nonneg hy)
    · have := near_mono_of_nonneg (f := f) (neg_nonneg.2 hy.le) (neg_le_neg h)
      rwa [near_neg, near_neg, neg_le_neg_iff] at this

/-- The error of rounding: a part of the number, and half a step. -/
theorem abs_near_sub_le [f.Proper] (x : ℚ) :
    |f.near x - x| ≤ |x| / 2 ^ f.precision + 1 / 2 / 2 ^ f.step := by
  wlog hx : 0 ≤ x generalizing x
  · have := this (-x) (by linarith)
    rwa [near_neg, abs_neg, ← abs_neg, neg_sub_neg, neg_sub] at this
  obtain ⟨num, den, pos, rfl⟩ := exists_eq_div hx
  have error := abs_nearest_sub_le (f := f) (num * 2 ^ f.step) pos
  have scale : (0 : ℚ) < 2 ^ f.step := by positivity
  set N := nearest f (num * 2 ^ f.step) den with hN
  push_cast at error
  rw [near_div num pos, ← hN, abs_of_nonneg hx]
  calc |(N : ℚ) / 2 ^ f.step - num / den|
      = |(N : ℚ) - num * 2 ^ f.step / den| / 2 ^ f.step := by
        rw [← abs_of_pos scale, ← abs_div, abs_of_pos scale]
        congr 1
        field_simp
    _ ≤ (num * 2 ^ f.step / den / 2 ^ f.precision + 1 / 2) / 2 ^ f.step := by gcongr
    _ = num / den / 2 ^ f.precision + 1 / 2 / 2 ^ f.step := by field_simp

/-- A number whose significand has room is rounded to itself. -/
theorem near_of_fits [f.Proper] {m e : ℕ} (hm : m ≤ 2 ^ f.precision) (he : e ≤ f.step) :
    f.near (m / 2 ^ e) = m / 2 ^ e := by
  have unit : 0 < 2 ^ e := by positivity
  have steps : m * 2 ^ f.step = m * 2 ^ (f.step - e) * 2 ^ e := by
    rw [mul_assoc, ← pow_add, Nat.sub_add_cancel he]
  have := near_div (f := f) m unit
  rw [steps, nearest_mul (fits_mul_two_pow _ hm) unit] at this
  push_cast at this
  rw [this, div_eq_div_iff (by positivity) (by positivity), mul_assoc, ← pow_add,
    Nat.sub_add_cancel he]

theorem near_natCast [f.Proper] {m : ℕ} (hm : m ≤ 2 ^ f.precision) : f.near m = m := by
  simpa using near_of_fits (f := f) (e := 0) hm (Nat.zero_le _)

theorem near_mem_Icc [f.Proper] {a b : ℕ} {x : ℚ} (hb : b ≤ 2 ^ f.precision) (ha : a ≤ x)
    (hx : x ≤ b) : a ≤ f.near x ∧ f.near x ≤ b := by
  have order : a ≤ b := by exact_mod_cast ha.trans hx
  constructor
  · rw [← near_natCast (f := f) (order.trans hb)]
    exact near_mono ha
  · rw [← near_natCast (f := f) hb]
    exact near_mono hx

/-- Where whole numbers are no closer than two apart, a half is lost. -/
theorem near_add_half [f.Proper] {n : ℕ} (h : 2 ^ f.precision ≤ n) :
    f.near (f.near n + 1 / 2) = f.near n := by
  have rounded := near_div (f := f) n one_pos
  rw [Nat.cast_one, div_one] at rounded
  set N := nearest f (n * 2 ^ f.step) 1 with hN
  have fits : Fits f N := fits_nearest _ one_pos
  have large : 2 ^ (f.precision + f.step) ≤ N := by
    rw [← nearest_mul (fits_two_pow (f := f) _) one_pos, hN]
    refine nearest_mono one_pos one_pos (Nat.mul_le_mul_right 1 ?_)
    rw [mul_one, pow_add]
    exact Nat.mul_le_mul_right _ h
  have room : f.step < excess f N := by
    have := (Nat.pow_lt_pow_iff_right one_lt_two).1 (large.trans_lt (lt_two_pow_excess f N))
    omega
  have unit : 0 < 2 ^ (f.step + 1) := by positivity
  have sum : (N / 2 ^ f.step + 1 / 2 : ℚ) = (N * 2 + 2 ^ f.step : ℕ) / (2 ^ (f.step + 1) : ℕ) := by
    push_cast
    rw [pow_succ]
    field_simp
  have split : (N * 2 + 2 ^ f.step) * 2 ^ f.step =
      N * 2 ^ (f.step + 1) + 2 ^ f.step * 2 ^ f.step := by ring
  have small : 2 * (2 ^ f.step * 2 ^ f.step) < 2 ^ (f.step + 1) * 2 ^ excess f N := by
    calc 2 * (2 ^ f.step * 2 ^ f.step) = 2 ^ (f.step + 1) * 2 ^ f.step := by ring
      _ < 2 ^ (f.step + 1) * 2 ^ excess f N :=
        Nat.mul_lt_mul_of_pos_left (Nat.pow_lt_pow_right one_lt_two room) unit
  rw [rounded, sum, near_div _ unit, split, nearest_add fits small]

theorem exists_fits_near [f.Proper] {x : ℚ} (h : 0 ≤ x) :
    ∃ n : ℕ, Fits f n ∧ f.near x = n / 2 ^ f.step := by
  obtain ⟨num, den, pos, rfl⟩ := exists_eq_div h
  exact ⟨_, fits_nearest _ pos, near_div num pos⟩

theorem near_steps [f.Proper] {n : ℕ} (fits : Fits f n) :
    f.near (n / 2 ^ f.step) = n / 2 ^ f.step := by
  have unit : 0 < 2 ^ f.step := by positivity
  have := near_div (f := f) n unit
  rwa [nearest_mul fits unit, Nat.cast_pow, Nat.cast_ofNat] at this

/-- Rounding a second time changes nothing. -/
@[simp] theorem near_near [f.Proper] (x : ℚ) : f.near (f.near x) = f.near x := by
  wlog h : 0 ≤ x generalizing x
  · have := this (-x) (by linarith)
    rwa [near_neg, near_neg, neg_inj] at this
  obtain ⟨n, fits, steps⟩ := exists_fits_near (f := f) h
  rw [steps, near_steps fits]

/-- What is rounded to less than one is rounded to a unit of the last place less at least. -/
theorem near_le_of_lt_one [f.Proper] (room : f.precision ≤ f.step) {x : ℚ} (h : f.near x < 1) :
    f.near x ≤ 1 - 1 / 2 ^ f.precision := by
  have pos := Format.Proper.precision_pos (f := f)
  have one_le : (1 : ℚ) ≤ 2 ^ f.precision := one_le_pow₀ one_le_two
  have part : (1 : ℚ) / 2 ^ f.precision ≤ 1 := by rwa [div_le_one (by positivity)]
  rcases le_or_gt 0 x with nonneg | neg
  · obtain ⟨n, fits, steps⟩ := exists_fits_near (f := f) nonneg
    have scale : (0 : ℚ) < 2 ^ f.step := by positivity
    rw [steps, div_lt_one scale] at h
    have below : n < 2 ^ f.step := by exact_mod_cast h
    have split : 2 ^ f.step = 2 ^ (f.step - f.precision) * 2 ^ f.precision := by
      rw [← pow_add, Nat.sub_add_cancel room]
    have unit : n + 2 ^ (f.step - f.precision) ≤ 2 ^ f.step := by
      rcases lt_or_ge (excess f n) (f.step - f.precision) with few | many
      · have small : n < 2 ^ (f.step - 1) := (lt_two_pow_excess f n).trans_le
          (Nat.pow_le_pow_right two_pos (by omega))
        have half : 2 ^ (f.step - f.precision) ≤ 2 ^ (f.step - 1) :=
          Nat.pow_le_pow_right two_pos (by omega)
        have double : 2 ^ f.step = 2 * 2 ^ (f.step - 1) := by
          rw [← pow_succ']
          congr 1
          omega
        omega
      · -- The unit divides both the number and one.
        obtain ⟨c, rfl⟩ := (pow_dvd_pow 2 many).trans fits
        rw [split] at below ⊢
        have := Nat.lt_of_mul_lt_mul_left below
        calc 2 ^ (f.step - f.precision) * c + 2 ^ (f.step - f.precision)
            = 2 ^ (f.step - f.precision) * (c + 1) := by ring
          _ ≤ 2 ^ (f.step - f.precision) * 2 ^ f.precision := Nat.mul_le_mul_left _ this
    have cast : (n : ℚ) + 2 ^ (f.step - f.precision) ≤ 2 ^ f.step := by exact_mod_cast unit
    have scaled : (1 : ℚ) / 2 ^ f.precision = 2 ^ (f.step - f.precision) / 2 ^ f.step := by
      have : (2 : ℚ) ^ f.step = 2 ^ (f.step - f.precision) * 2 ^ f.precision := by
        exact_mod_cast split
      rw [this]
      field_simp
    rw [steps, scaled, ← sub_nonneg]
    have : (1 : ℚ) - 2 ^ (f.step - f.precision) / 2 ^ f.step - n / 2 ^ f.step =
        (2 ^ f.step - (n + 2 ^ (f.step - f.precision))) / 2 ^ f.step := by
      field_simp
      ring
    rw [this]
    exact div_nonneg (by linarith) scale.le
  · have := near_nonneg (f := f) (neg_nonneg.2 neg.le)
    rw [near_neg] at this
    linarith

/-- Half a unit is taken from a number without error, unless the number is too large or less
than a half. -/
theorem near_sub_half [f.Proper] (step : 0 < f.step) {x : ℚ} (low : 1 / 2 ≤ f.near x)
    (high : f.near x < 2 ^ (f.precision - 1)) :
    f.near (f.near x - 1 / 2) = f.near x - 1 / 2 := by
  have pos := Format.Proper.precision_pos (f := f)
  have nonneg : 0 ≤ x := by
    by_contra neg
    have := near_nonneg (f := f) (neg_nonneg.2 (not_le.1 neg).le)
    rw [near_neg] at this
    linarith
  obtain ⟨n, fits, steps⟩ := exists_fits_near (f := f) nonneg
  have scale : (0 : ℚ) < 2 ^ f.step := by positivity
  have half : (1 / 2 : ℚ) = (2 ^ (f.step - 1) : ℕ) / 2 ^ f.step := by
    have : (2 : ℚ) ^ f.step = 2 * 2 ^ (f.step - 1) := by
      rw [← pow_succ']
      congr 1
      omega
    rw [this]
    push_cast
    field_simp
  rw [steps, half, div_le_div_iff_of_pos_right scale] at low
  have above : 2 ^ (f.step - 1) ≤ n := by exact_mod_cast low
  rw [steps, div_lt_iff₀ scale, ← pow_add] at high
  have below : n < 2 ^ (f.precision - 1 + f.step) := by exact_mod_cast high
  -- A half is a whole number of units of the last place, and the difference has no smaller ones.
  have units : excess f n ≤ f.step - 1 := by
    refine excess_le (below.trans_le (Nat.pow_le_pow_right two_pos (by omega)))
  have difference : Fits f (n - 2 ^ (f.step - 1)) :=
    (pow_dvd_pow 2 (excess_mono (Nat.sub_le _ _))).trans
      (Nat.dvd_sub fits (pow_dvd_pow 2 units))
  rw [steps, half, ← sub_div, ← Nat.cast_sub above, near_steps difference]

end Format

end Tint
