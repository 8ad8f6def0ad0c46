import Tint.Proofs.Binary.Nearest
import Mathlib.Algebra.Order.Floor.Semifield
import Mathlib.Data.Rat.Floor

/-!
# The arithmetic of a binary format on rationals

`a.Denotes x` says that the number `a` is finite and has the rational value `x`. Every
operation of `Tint.Binary` denotes the exact result rounded once (`Format.near`), as long
as the exact result is not above the top of the format; comparisons and the conversions to
naturals are those of the values. An expression of the library is thus read as a rational
expression with a `near` at every operation, and its error is a fact about rationals.
-/

namespace Tint

/-- A bound below which nothing becomes an infinity. -/
def Format.top (f : Format) : ℚ := 2 ^ (f.bound - 1) / 2 ^ f.step

namespace Binary

open Format Rounding

variable {f : Format} {a b : Binary f} {x y : ℚ}

/-- The number is finite and has the value `x`. -/
def Denotes (a : Binary f) (x : ℚ) : Prop :=
  ∃ negative steps, a = finite negative steps ∧ (signed negative steps : ℚ) = x * 2 ^ f.step

/-- The sign of a number as a factor. -/
def factor (negative : Bool) : ℚ := if negative then -1 else 1

@[simp] theorem factor_true : factor true = -1 := rfl
@[simp] theorem factor_false : factor false = 1 := rfl

@[simp] theorem abs_factor (negative : Bool) : |factor negative| = 1 := by
  cases negative <;> simp

@[simp] theorem factor_not (negative : Bool) : factor (!negative) = -factor negative := by
  cases negative <;> simp

theorem factor_bne (s t : Bool) : factor (s != t) = factor s * factor t := by
  cases s <;> cases t <;> simp

theorem cast_signed (negative : Bool) (steps : ℕ) :
    (signed negative steps : ℚ) = factor negative * steps := by
  cases negative <;> simp [signed]

/-- A finite number has a value. -/
theorem denotes_finite (negative : Bool) (steps : ℕ) (h : x = factor negative * (steps / 2 ^ f.step)) :
    (finite negative steps : Binary f).Denotes x := by
  refine ⟨negative, steps, rfl, ?_⟩
  rw [cast_signed, h]
  field_simp

/-- What is in range is rounded once. -/
theorem denotes_round [f.Proper] (negative : Bool) (num : ℕ) {den : ℕ} (pos : 0 < den)
    (h : x = factor negative * (num / den / 2 ^ f.step)) (range : |x| ≤ f.top) :
    (round f negative num den).Denotes (f.near x) := by
  have scale : (0 : ℚ) < 2 ^ f.step := by positivity
  have bounded : nearest f num den ≤ 2 ^ (f.bound - 1) := by
    rw [← nearest_mul (fits_two_pow (f := f) _) pos]
    refine nearest_mono pos pos (Nat.mul_le_mul_right den ?_)
    rw [h, abs_mul, abs_factor, one_mul, abs_of_nonneg (by positivity), top,
      div_le_div_iff_of_pos_right scale, div_le_iff₀ (by exact_mod_cast pos)] at range
    exact_mod_cast range
  have inRange : ¬ 1 <<< f.bound ≤ nearest f num den := by
    have := Format.Proper.step_lt (f := f)
    have : 2 ^ (f.bound - 1) < 2 ^ f.bound := Nat.pow_lt_pow_right one_lt_two (by omega)
    rw [Nat.shiftLeft_eq, one_mul]
    omega
  have rounded : f.near (num / den / 2 ^ f.step) = nearest f num den / 2 ^ f.step := by
    have := near_div (f := f) num (show 0 < den * 2 ^ f.step by positivity)
    push_cast at this
    rw [div_div, this]
    congr 2
    exact nearest_congr (by positivity) pos (by ring)
  rw [round, if_neg inRange]
  refine denotes_finite negative _ ?_
  rw [h]
  cases negative <;> simp [near_neg, rounded]

/-! ### Constants -/

theorem denotes_zero : (zero : Binary f).Denotes 0 := denotes_finite false 0 (by simp)

theorem denotes_ofRatio [f.Proper] (num : ℕ) {den : ℕ} (pos : 0 < den)
    (range : (num / den : ℚ) ≤ f.top) :
    (ofRatio num den : Binary f).Denotes (f.near (num / den)) := by
  refine denotes_round false _ pos ?_ (by rwa [abs_of_nonneg (by positivity)])
  rw [Nat.shiftLeft_eq]
  push_cast
  field_simp
  simp

theorem denotes_ofNat [f.Proper] {n : ℕ} (range : (n : ℚ) ≤ f.top) :
    (ofNat n : Binary f).Denotes (f.near n) := by
  simpa [ofNat, ofRatio] using denotes_ofRatio (f := f) n one_pos (by simpa using range)

/-! ### Operations -/

theorem Denotes.neg (ha : a.Denotes x) : (-a).Denotes (-x) := by
  obtain ⟨s, m, rfl, hm⟩ := ha
  refine ⟨!s, m, rfl, ?_⟩
  rw [cast_signed] at hm ⊢
  rw [factor_not, neg_mul, hm, neg_mul]

theorem Denotes.add [f.Proper] (ha : a.Denotes x) (hb : b.Denotes y) (range : |x + y| ≤ f.top) :
    (a + b).Denotes (f.near (x + y)) := by
  obtain ⟨s, m, rfl, hm⟩ := ha
  obtain ⟨t, n, rfl, hn⟩ := hb
  have scale : (0 : ℚ) < 2 ^ f.step := by positivity
  set total := signed s m + signed t n with htotal
  have value : (total : ℚ) = (x + y) * 2 ^ f.step := by
    rw [htotal, Int.cast_add, hm, hn, add_mul]
  show (add (finite s m) (finite t n)).Denotes _
  simp only [add, ← htotal]
  split_ifs with zero
  · have sum : x + y = 0 := by
      rw [zero, Int.cast_zero, eq_comm, mul_eq_zero] at value
      exact value.resolve_right scale.ne'
    rw [sum, near_zero]
    exact denotes_finite _ 0 (by simp)
  · refine denotes_round _ _ one_pos ?_ range
    have magnitude : (total.natAbs : ℚ) = |(total : ℚ)| := by rw [Nat.cast_natAbs, Int.cast_abs]
    have sign : factor (decide (total < 0)) * |(total : ℚ)| = total := by
      by_cases neg : total < 0
      · simp [neg, abs_of_neg (Int.cast_lt_zero.2 neg : (total : ℚ) < 0)]
      · simp [neg, abs_of_nonneg (by exact_mod_cast not_lt.1 neg : (0 : ℚ) ≤ total)]
    rw [magnitude, Nat.cast_one, div_one, ← mul_div_assoc, sign, value]
    field_simp

theorem Denotes.sub [f.Proper] (ha : a.Denotes x) (hb : b.Denotes y) (range : |x - y| ≤ f.top) :
    (a - b).Denotes (f.near (x - y)) := by
  rw [sub_eq_add_neg] at range ⊢
  exact ha.add hb.neg range

theorem Denotes.mul [f.Proper] (ha : a.Denotes x) (hb : b.Denotes y) (range : |x * y| ≤ f.top) :
    (a * b).Denotes (f.near (x * y)) := by
  obtain ⟨s, m, rfl, hm⟩ := ha
  obtain ⟨t, n, rfl, hn⟩ := hb
  have scale : (2 : ℚ) ^ f.step ≠ 0 := by positivity
  rw [cast_signed, ← div_eq_iff scale] at hm hn
  show (mul (finite s m) (finite t n)).Denotes _
  rw [mul, Nat.shiftLeft_eq, one_mul]
  refine denotes_round _ _ (by positivity) ?_ range
  rw [← hm, ← hn, factor_bne]
  push_cast
  field_simp

theorem Denotes.div [f.Proper] (ha : a.Denotes x) (hb : b.Denotes y) (nonzero : y ≠ 0)
    (range : |x / y| ≤ f.top) : (a / b).Denotes (f.near (x / y)) := by
  obtain ⟨s, m, rfl, hm⟩ := ha
  obtain ⟨t, n, rfl, hn⟩ := hb
  have scale : (2 : ℚ) ^ f.step ≠ 0 := by positivity
  have divisor : n ≠ 0 := by
    rintro rfl
    rw [cast_signed, Nat.cast_zero, mul_zero, eq_comm, mul_eq_zero] at hn
    exact nonzero (hn.resolve_right scale)
  rw [cast_signed, ← div_eq_iff scale] at hm hn
  show (div (finite s m) (finite t n)).Denotes _
  rw [div, if_neg divisor, Nat.shiftLeft_eq]
  refine denotes_round _ _ (Nat.pos_of_ne_zero divisor) ?_ range
  have : (n : ℚ) ≠ 0 := by exact_mod_cast divisor
  rw [← hm, ← hn, factor_bne]
  push_cast
  cases t <;> simp <;> field_simp

/-! ### Comparisons -/

theorem Denotes.isNaN (ha : a.Denotes x) : a.isNaN = false := by
  obtain ⟨s, m, rfl, -⟩ := ha
  rfl

theorem Denotes.lt_iff (ha : a.Denotes x) (hb : b.Denotes y) : a.lt b = true ↔ x < y := by
  obtain ⟨s, m, rfl, hm⟩ := ha
  obtain ⟨t, n, rfl, hn⟩ := hb
  rw [lt, decide_eq_true_iff, ← Int.cast_lt (R := ℚ), hm, hn]
  exact mul_lt_mul_iff_left₀ (by positivity)

theorem Denotes.le_iff (ha : a.Denotes x) (hb : b.Denotes y) : a.le b = true ↔ x ≤ y := by
  rw [le, ha.isNaN, hb.isNaN, ← not_lt, ← hb.lt_iff ha]
  simp

theorem Denotes.max (ha : a.Denotes x) (hb : b.Denotes y) : (a.max b).Denotes (x ⊔ y) := by
  rw [Binary.max, ha.isNaN, if_neg (by decide)]
  split_ifs with h
  · rwa [max_eq_right ((ha.lt_iff hb).1 h).le]
  · rwa [max_eq_left (not_lt.1 fun lt => h ((ha.lt_iff hb).2 lt))]

theorem Denotes.min (ha : a.Denotes x) (hb : b.Denotes y) : (a.min b).Denotes (x ⊓ y) := by
  rw [Binary.min, ha.isNaN, if_neg (by decide)]
  split_ifs with h
  · rwa [min_eq_right ((hb.lt_iff ha).1 h).le]
  · rwa [min_eq_left (not_lt.1 fun lt => h ((hb.lt_iff ha).2 lt))]

theorem Denotes.clamp {low high : Binary f} {l h : ℚ} (ha : a.Denotes x) (hl : low.Denotes l)
    (hh : high.Denotes h) : (a.clamp low high).Denotes ((x ⊔ l) ⊓ h) := by
  have raised : (if a.lt low then low else a).Denotes (x ⊔ l) := by
    have := ha.max hl
    rwa [Binary.max, ha.isNaN, if_neg (by decide)] at this
  have := raised.min hh
  rwa [Binary.min, raised.isNaN, if_neg (by decide)] at this

/-! ### Whole numbers -/

/-- A rule for quotients that gives a nearest natural. -/
def IsNearest (rule : ℕ → ℕ → ℕ) : Prop :=
  ∀ num den, 0 < den →
    2 * (rule num den * den) ≤ 2 * num + den ∧ 2 * num ≤ 2 * (rule num den * den) + den

theorem isNearest_divEven : IsNearest divEven := fun num den pos =>
  ⟨two_mul_divEven_le num den, le_two_mul_divEven num pos⟩

theorem isNearest_divHalfUp : IsNearest divHalfUp := by
  intro num den pos
  have h := Nat.div_add_mod (2 * num + den) (2 * den)
  have small := Nat.mod_lt (2 * num + den) (by omega : 0 < 2 * den)
  have unit : 2 * den * ((2 * num + den) / (2 * den)) = 2 * (divHalfUp num den * den) := by
    rw [divHalfUp]
    ring
  omega

/-- A quotient less than half a unit off a range of naturals becomes a natural of the range. -/
theorem IsNearest.mem {rule : ℕ → ℕ → ℕ} (nearest : IsNearest rule) {num den low high : ℕ}
    (pos : 0 < den) (above : 2 * (low * den) < 2 * num + den)
    (below : 2 * num < 2 * (high * den) + den) :
    low ≤ rule num den ∧ rule num den ≤ high := by
  obtain ⟨upper, lower⟩ := nearest num den pos
  have hlow : low * den < (rule num den + 1) * den := by linarith
  have hhigh : rule num den * den < (high + 1) * den := by linarith
  exact ⟨Nat.lt_succ_iff.1 (Nat.lt_of_mul_lt_mul_right hlow),
    Nat.lt_succ_iff.1 (Nat.lt_of_mul_lt_mul_right hhigh)⟩

/-- A number less than half a unit off a range of naturals becomes a natural of the range. -/
theorem Denotes.toNatBy_mem {rule : ℕ → ℕ → ℕ} (nearest : IsNearest rule) (ha : a.Denotes x)
    {low high limit : ℕ} (hl : low - 1 / 2 < x) (hh : x < high + 1 / 2) (hlimit : high ≤ limit) :
    low ≤ a.toNatBy rule limit ∧ a.toNatBy rule limit ≤ high := by
  obtain ⟨s, m, rfl, hm⟩ := ha
  have scale : (0 : ℚ) < 2 ^ f.step := by positivity
  rw [cast_signed] at hm
  cases s with
  | true =>
    have below : x ≤ 0 := by
      rw [factor_true, neg_one_mul] at hm
      by_contra pos
      have := mul_pos (not_le.1 pos) scale
      have : (0 : ℚ) ≤ m := Nat.cast_nonneg m
      linarith
    have zero : low < 1 := by
      have : (low : ℚ) < 1 := by linarith
      exact_mod_cast this
    simp only [toNatBy, if_pos]
    omega
  | false =>
    rw [factor_false, one_mul] at hm
    have above : (2 * (low * 2 ^ f.step) : ℚ) < 2 * m + 2 ^ f.step := by
      have := mul_lt_mul_of_pos_right hl scale
      rw [← hm] at this
      linarith
    have below : (2 * m : ℚ) < 2 * (high * 2 ^ f.step) + 2 ^ f.step := by
      have := mul_lt_mul_of_pos_right hh scale
      rw [← hm] at this
      linarith
    have whole_eq : whole f rule m = rule m (2 ^ f.step) := by
      rw [whole, Nat.shiftLeft_eq, one_mul]
    obtain ⟨low_le, le_high⟩ : low ≤ rule m (2 ^ f.step) ∧ rule m (2 ^ f.step) ≤ high :=
      nearest.mem (by positivity) (by exact_mod_cast above) (by exact_mod_cast below)
    have inside : Nat.min (rule m (2 ^ f.step)) limit = rule m (2 ^ f.step) :=
      Nat.min_eq_left (le_high.trans hlimit)
    simp only [toNatBy, Bool.false_eq_true, if_false, whole_eq, inside]
    exact ⟨low_le, le_high⟩

/-- The integer part of a number that is not negative. -/
theorem Denotes.floorTo_eq (ha : a.Denotes x) (nonneg : 0 ≤ x) (limit : ℕ) :
    a.floorTo limit = ⌊x⌋₊ ⊓ limit := by
  obtain ⟨s, m, rfl, hm⟩ := ha
  have scale : (0 : ℚ) < 2 ^ f.step := by positivity
  rw [cast_signed, ← div_eq_iff scale.ne'] at hm
  cases s with
  | true =>
    have below : factor true * (m : ℚ) / 2 ^ f.step ≤ 0 := by
      rw [factor_true, neg_one_mul, neg_div]
      exact neg_nonpos.2 (by positivity)
    have : x = 0 := le_antisymm (hm ▸ below) nonneg
    simp [floorTo, toNatBy, this]
  | false =>
    have : ⌊x⌋₊ = m / 2 ^ f.step := by
      rw [← hm, factor_false, one_mul]
      exact_mod_cast Nat.floor_div_eq_div (K := ℚ) m (2 ^ f.step)
    simp only [floorTo, toNatBy, whole, Nat.shiftLeft_eq, one_mul, this, Bool.false_eq_true,
      if_false]

end Binary

end Tint
