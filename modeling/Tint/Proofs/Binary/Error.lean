import Tint.Proofs.Binary.Arithmetic

/-!
# Errors of computations of 32 bits

`Within a x ε` says that the number `a` is finite and off the rational `x` by at most `ε`.
The rules below give the error of a result from the errors of its operands; each takes a
bound of the exact result, which says what one more rounding can add. With them the error
of an expression is found operation by operation, and what is left are inequalities
between numerals.
-/

namespace Tint

namespace Binary

open Format

variable {a b : Single} {x y ε δ e B X Y : ℚ}

theorem top_single : Format.single.top = 2 ^ 127 := by
  rw [top, div_eq_iff (by positivity)]
  simp only [Format.single, ← pow_add]

theorem abs_near_single_sub_le (h : |x| ≤ B) :
    |Format.single.near x - x| ≤ B / 2 ^ 24 + 1 / 2 ^ 150 := by
  have := abs_near_sub_le (f := Format.single) x
  have part : |x| / 2 ^ 24 ≤ B / 2 ^ 24 := by gcongr
  simp only [Format.single] at this ⊢
  norm_num at this part ⊢
  linarith

/-- The number is finite and off `x` by at most `ε`. -/
def Within (a : Single) (x ε : ℚ) : Prop := ∃ v, a.Denotes v ∧ |v - x| ≤ ε

theorem Denotes.within (ha : a.Denotes x) : Within a x 0 := ⟨x, ha, by simp⟩

theorem denotes_ofNat_single {n : ℕ} (h : n ≤ 2 ^ 24) : (ofNat n : Single).Denotes n := by
  have range : (n : ℚ) ≤ Format.single.top := by
    rw [top_single]
    calc (n : ℚ) ≤ 2 ^ 24 := by exact_mod_cast h
      _ ≤ 2 ^ 127 := by norm_num
  have := denotes_ofNat range
  rwa [near_natCast (f := Format.single) h] at this

theorem abs_le_add {v : ℚ} (hv : |v - x| ≤ ε) (hx : |x| ≤ B) : |v| ≤ B + ε := by
  calc |v| = |x + (v - x)| := by ring_nf
    _ ≤ |x| + |v - x| := abs_add_le _ _
    _ ≤ B + ε := add_le_add hx hv

/-- A rounded result is off by its operands' errors and one rounding error. -/
theorem within_near {v : ℚ} (hv : |v - x| ≤ ε) (hx : |x| ≤ B)
    (small : ε + (B + ε) / 2 ^ 24 + 1 / 2 ^ 150 ≤ e) : |Format.single.near v - x| ≤ e := by
  have rounding := abs_near_single_sub_le (abs_le_add hv hx)
  calc |Format.single.near v - x| = |(Format.single.near v - v) + (v - x)| := by ring_nf
    _ ≤ |Format.single.near v - v| + |v - x| := abs_add_le _ _
    _ ≤ ((B + ε) / 2 ^ 24 + 1 / 2 ^ 150) + ε := add_le_add rounding hv
    _ ≤ e := by linarith

theorem abs_le_top {v : ℚ} (hv : |v - x| ≤ ε) (hx : |x| ≤ B) (range : B + ε ≤ 2 ^ 127) :
    |v| ≤ Format.single.top := by
  rw [top_single]
  exact (abs_le_add hv hx).trans range

theorem Within.add (ha : Within a x ε) (hb : Within b y δ) (h : |x + y| ≤ B)
    (range : B + (ε + δ) ≤ 2 ^ 127)
    (small : (ε + δ) + (B + (ε + δ)) / 2 ^ 24 + 1 / 2 ^ 150 ≤ e) : Within (a + b) (x + y) e := by
  obtain ⟨v, hv, errorV⟩ := ha
  obtain ⟨w, hw, errorW⟩ := hb
  have error : |(v + w) - (x + y)| ≤ ε + δ := by
    rw [add_sub_add_comm]
    exact (abs_add_le _ _).trans (add_le_add errorV errorW)
  exact ⟨_, hv.add hw (abs_le_top error h range), within_near error h small⟩

theorem Within.sub (ha : Within a x ε) (hb : Within b y δ) (h : |x - y| ≤ B)
    (range : B + (ε + δ) ≤ 2 ^ 127)
    (small : (ε + δ) + (B + (ε + δ)) / 2 ^ 24 + 1 / 2 ^ 150 ≤ e) : Within (a - b) (x - y) e := by
  obtain ⟨v, hv, errorV⟩ := ha
  obtain ⟨w, hw, errorW⟩ := hb
  have error : |(v - w) - (x - y)| ≤ ε + δ := by
    rw [sub_sub_sub_comm]
    exact (abs_sub _ _).trans (add_le_add errorV errorW)
  exact ⟨_, hv.sub hw (abs_le_top error h range), within_near error h small⟩

theorem Within.mul (ha : Within a x ε) (hb : Within b y δ) (hx : |x| ≤ X) (hy : |y| ≤ Y)
    (range : X * Y + (X * δ + ε * (Y + δ)) ≤ 2 ^ 127)
    (small : (X * δ + ε * (Y + δ)) + (X * Y + (X * δ + ε * (Y + δ))) / 2 ^ 24 + 1 / 2 ^ 150 ≤ e) :
    Within (a * b) (x * y) e := by
  obtain ⟨v, hv, errorV⟩ := ha
  obtain ⟨w, hw, errorW⟩ := hb
  have size : |w| ≤ Y + δ := abs_le_add errorW hy
  have error : |v * w - x * y| ≤ X * δ + ε * (Y + δ) := by
    calc |v * w - x * y| = |x * (w - y) + (v - x) * w| := by ring_nf
      _ ≤ |x| * |w - y| + |v - x| * |w| := by
        rw [← abs_mul, ← abs_mul]
        exact abs_add_le _ _
      _ ≤ X * δ + ε * (Y + δ) := by
        refine add_le_add (mul_le_mul hx errorW (abs_nonneg _) ?_)
          (mul_le_mul errorV size (abs_nonneg _) ?_)
        · exact (abs_nonneg x).trans hx
        · exact (abs_nonneg _).trans errorV
  have product : |x * y| ≤ X * Y := by
    rw [abs_mul]
    exact mul_le_mul hx hy (abs_nonneg _) ((abs_nonneg x).trans hx)
  exact ⟨_, hv.mul hw (abs_le_top error product range), within_near error product small⟩

/-- A quotient by a number without error. -/
theorem Within.div (ha : Within a x ε) (hb : b.Denotes y) (pos : 0 < y) (hx : |x / y| ≤ B)
    (range : B + ε / y ≤ 2 ^ 127)
    (small : ε / y + (B + ε / y) / 2 ^ 24 + 1 / 2 ^ 150 ≤ e) : Within (a / b) (x / y) e := by
  obtain ⟨v, hv, errorV⟩ := ha
  have error : |v / y - x / y| ≤ ε / y := by
    rw [← sub_div, abs_div, abs_of_pos pos]
    gcongr
  exact ⟨_, hv.div hb pos.ne' (abs_le_top error hx range), within_near error hx small⟩

/-- Holding a number between two bounds takes it no further from what is between them. -/
theorem Within.clamp {low high : Single} {l h : ℚ} (ha : Within a x ε) (hl : low.Denotes l)
    (hh : high.Denotes h) (lx : l ≤ x) (xh : x ≤ h) :
    ∃ v, (a.clamp low high).Denotes v ∧ |v - x| ≤ ε ∧ l ≤ v ∧ v ≤ h := by
  obtain ⟨v, hv, error⟩ := ha
  refine ⟨_, hv.clamp hl hh, ?_, le_min (le_max_right _ _) (lx.trans xh), min_le_right _ _⟩
  have held : (x ⊔ l) ⊓ h = x := by rw [max_eq_left lx, min_eq_left xh]
  calc |(v ⊔ l) ⊓ h - x| = |(v ⊔ l) ⊓ h - (x ⊔ l) ⊓ h| := by rw [held]
    _ ≤ |v ⊔ l - x ⊔ l| := abs_inf_sub_inf_le_abs _ _ _
    _ ≤ |v - x| := abs_sup_sub_sup_le_abs _ _ _
    _ ≤ ε := error

theorem Within.toNatBy_mem {rule : ℕ → ℕ → ℕ} (nearest : IsNearest rule) (ha : Within a x ε)
    {low high limit : ℕ} (hl : low ≤ x) (hh : x ≤ high) (hε : ε < 1 / 2) (hlimit : high ≤ limit) :
    low ≤ a.toNatBy rule limit ∧ a.toNatBy rule limit ≤ high := by
  obtain ⟨v, hv, error⟩ := ha
  rw [abs_sub_le_iff] at error
  exact hv.toNatBy_mem nearest (by linarith) (by linarith) hlimit

/-- Whatever a number is, it becomes a natural within the limit. -/
theorem toNatBy_le (rule : ℕ → ℕ → ℕ) (limit : ℕ) (a : Single) : a.toNatBy rule limit ≤ limit := by
  cases a with
  | nan => exact Nat.zero_le _
  | infinity negative => cases negative <;> simp [toNatBy]
  | finite negative steps =>
    cases negative with
    | true => simp [toNatBy]
    | false => exact Nat.min_le_right _ _

/-- A number in reach of a range of bytes becomes a byte that is half a unit off it at most. -/
theorem Denotes.abs_toNatBy_sub_le {rule : ℕ → ℕ → ℕ} (nearest : IsNearest rule)
    (ha : a.Denotes x) {limit : ℕ} (above : -(1 / 2) < x) (below : x < limit + 1 / 2) :
    |(a.toNatBy rule limit : ℚ) - x| ≤ 1 / 2 := by
  have held := toNatBy_le rule limit a
  have mem {low high : ℕ} (hl : low - 1 / 2 < x) (hh : x < high + 1 / 2) (h : high ≤ limit) :=
    ha.toNatBy_mem nearest hl hh h
  generalize a.toNatBy rule limit = n at held mem ⊢
  refine abs_sub_le_iff.2 ⟨not_lt.1 fun tooHigh => ?_, not_lt.1 fun tooLow => ?_⟩
  · -- The number is nearer to the byte before.
    have pos : n ≠ 0 := by
      rintro rfl
      rw [Nat.cast_zero] at tooHigh
      linarith
    have before : ((n - 1 : ℕ) : ℚ) = n - 1 := Nat.cast_pred (Nat.pos_of_ne_zero pos)
    have : 0 ≤ n ∧ n ≤ n - 1 :=
      mem (by rw [Nat.cast_zero]; linarith) (by rw [before]; linarith) (by omega)
    omega
  · -- The number is nearer to the byte behind.
    have : n + 1 ≤ n ∧ n ≤ limit := mem (by push_cast; linarith) below le_rfl
    omega

/-- A number off a range of bytes by an error becomes a byte off by half a unit more at most. -/
theorem Within.abs_toNatBy_sub_le {rule : ℕ → ℕ → ℕ} (nearest : IsNearest rule)
    (ha : Within a x ε) {limit : ℕ} (low : 0 ≤ x) (high : x ≤ limit) (hε : ε < 1 / 2) :
    |(a.toNatBy rule limit : ℚ) - x| ≤ 1 / 2 + ε := by
  obtain ⟨v, hv, error⟩ := ha
  have near := abs_sub_le_iff.1 error
  have rounded : |(a.toNatBy rule limit : ℚ) - v| ≤ 1 / 2 :=
    hv.abs_toNatBy_sub_le nearest (by linarith) (by linarith)
  calc |(a.toNatBy rule limit : ℚ) - x| = |((a.toNatBy rule limit : ℚ) - v) + (v - x)| := by ring_nf
    _ ≤ |(a.toNatBy rule limit : ℚ) - v| + |v - x| := abs_add_le _ _
    _ ≤ 1 / 2 + ε := add_le_add rounded error

end Binary

end Tint
