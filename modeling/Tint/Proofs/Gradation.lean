import Tint.Proofs.Mixing

/-!
# Pixels against the formula

A mixed pixel follows the formula of the blend in two ways. It is close to it: a channel is off
the exact mixture by half a unit, which any byte may be, and by at most `2 ^ (-10)` for all the
roundings on the way (`abs_pixel_sub_le`). And it grows with the mask as the formula does: a
stronger mask takes no channel away from the color (`pixel_mono`).

The second does not follow from monotone roundings. As the mask gets stronger one term of the
mixture falls while the other rises, and each is rounded by itself, so that the sum of the two
may go the wrong way. It never does so where that could show. For a byte to change, the
mixture has to have come half a unit from the source; there one step of the mask is a part
`1 / 254` of that way at least, which is more than twice the error (`lt_of_half_way`).
-/

namespace Tint.Mix

open Binary

/-! ### Accuracy -/

theorem share_eq (source : Color) (mask : UInt8) :
    share source mask = mask.toNat / 255 *
      ((299 * source.r.toNat + 587 * source.g.toNat + 114 * source.b.toNat) / 255000) := by
  rw [share, brightness]
  ring

/-- The byte of a number is the nearest whole number within the range of bytes. -/
theorem toNat_quantize (v : Single) : (quantize v).toNat = v.roundEvenTo 255 := by
  have := toNatBy_le Rounding.divEven 255 v
  rw [quantize, roundEvenTo, UInt8.toNat_ofNat', Nat.mod_eq_of_lt (by omega)]

theorem abs_pixel_sub_mixture_le (source color : Color) (mask : UInt8) (c : Channel) (k : ℕ) :
    |(((pixel source mask (Settings.ofColor color c).scaledTarget).channel k).toNat : ℚ) -
        mixture (source.channel k) (color.channel k) (share source mask)| ≤ 1 / 2 + 1 / 2 ^ 11 := by
  obtain ⟨s0, s1⟩ := share_mem source mask
  obtain ⟨low, high⟩ := mixture_mem (source.channel k) (color.channel k) s0 s1
  have nonneg := low.trans' (Nat.cast_nonneg _)
  have top : mixture (source.channel k) (color.channel k) (share source mask) ≤ (255 : ℕ) :=
    high.trans ((Nat.cast_max ..).trans_le (max_le (byte_le _) (byte_le _)))
  rw [pixel, Rgb.channel_map, toNat_quantize]
  exact (blend_within source color mask c k).abs_toNatBy_sub_le isNearest_divEven nonneg top
    (by norm_num)

/-- **A mixed pixel is close to the formula.** With the part `m` of the target that the mask
byte and the luminance of the source make, each channel is off its exact mixture by half a
unit and `2 ^ (-10)` at most. -/
theorem abs_pixel_sub_le (source color : Color) (mask : UInt8) (c : Channel) (k : ℕ) :
    let m : ℚ := mask.toNat / 255 *
      ((299 * source.r.toNat + 587 * source.g.toNat + 114 * source.b.toNat) / 255000)
    |(((pixel source mask (Settings.ofColor color c).scaledTarget).channel k).toNat : ℚ) -
        ((source.channel k).toNat * (1 - m) + (color.channel k).toNat * m)| ≤
      1 / 2 + 1 / 2 ^ 10 := by
  intro m
  have close := abs_pixel_sub_mixture_le source color mask c k
  rw [mixture, share_eq] at close
  exact close.trans (by norm_num)

/-! ### Order -/

theorem share_mul (source : Color) (m n : UInt8) :
    share source m * n.toNat = share source n * m.toNat := by
  rw [share, share]
  ring

/-- Once a mixture has come half a unit from the source, less the error, one step of the mask
takes it further by more than twice the error. -/
theorem lt_of_half_way {m n : UInt8} (less : m < n) {a b : ℚ}
    (proportion : a * n.toNat = b * m.toNat) (half : 1 / 2 - 1 / 2 ^ 11 ≤ a) :
    a + 2 / 2 ^ 11 < b := by
  have step : m.toNat + 1 ≤ n.toNat := UInt8.lt_iff_toNat_lt.1 less
  have top := n.toNat_lt
  have stepQ : (m.toNat : ℚ) + 1 ≤ n.toNat := by exact_mod_cast step
  have topQ : (m.toNat : ℚ) ≤ 254 := by exact_mod_cast (by omega : m.toNat ≤ 254)
  have nonneg : (0 : ℚ) ≤ m.toNat := Nat.cast_nonneg _
  by_contra stuck
  have far : b * m.toNat ≤ (a + 2 / 2 ^ 11) * m.toNat :=
    mul_le_mul_of_nonneg_right (not_lt.1 stuck) nonneg
  have near : a * (m.toNat + 1) ≤ a * n.toNat :=
    mul_le_mul_of_nonneg_left stepQ (by linarith)
  have small : a ≤ 2 / 2 ^ 11 * 254 := by
    calc a = a * (m.toNat + 1) - a * m.toNat := by ring
      _ ≤ (a + 2 / 2 ^ 11) * m.toNat - a * m.toNat := by linarith
      _ = 2 / 2 ^ 11 * m.toNat := by ring
      _ ≤ 2 / 2 ^ 11 * 254 := by gcongr
  norm_num at small half
  linarith

/-- Ways that grow in proportion to the mask are in order also when they are known only up to
half a unit and the error. -/
theorem le_of_proportion {m n : UInt8} (less : m < n) {a b : ℚ}
    (proportion : a * n.toNat = b * m.toNat) {d e : ℕ} (near : |(d : ℚ) - a| ≤ 1 / 2 + 1 / 2 ^ 11)
    (far : |(e : ℚ) - b| ≤ 1 / 2 + 1 / 2 ^ 11) : d ≤ e := by
  by_contra turned
  have back : (e : ℚ) + 1 ≤ d := by exact_mod_cast not_le.1 turned
  have nonneg : (0 : ℚ) ≤ e := Nat.cast_nonneg e
  rw [abs_sub_le_iff] at near far
  have := lt_of_half_way less proportion (by linarith)
  linarith

theorem mixture_eq (source target : UInt8) (share : ℚ) :
    mixture source target share = source.toNat + (target.toNat - source.toNat) * share := by
  rw [mixture]
  ring

theorem rise_within {source color : Color} {k : ℕ}
    (rising : (source.channel k).toNat ≤ (color.channel k).toNat) (c : Channel) (mask : UInt8) :
    ∃ d : ℕ, ((pixel source mask (Settings.ofColor color c).scaledTarget).channel k).toNat =
        (source.channel k).toNat + d ∧
      |(d : ℚ) - ((color.channel k).toNat - (source.channel k).toNat) * share source mask| ≤
        1 / 2 + 1 / 2 ^ 11 := by
  have above := (pixel_between source color mask c k).1
  have close := abs_pixel_sub_mixture_le source color mask c k
  rw [min_eq_left rising] at above
  obtain ⟨d, hd⟩ := Nat.exists_eq_add_of_le above
  refine ⟨d, hd, ?_⟩
  rw [hd, mixture_eq, Nat.cast_add, add_sub_add_left_eq_sub] at close
  exact close

theorem fall_within {source color : Color} {k : ℕ}
    (falling : (color.channel k).toNat ≤ (source.channel k).toNat) (c : Channel) (mask : UInt8) :
    ∃ d : ℕ, ((pixel source mask (Settings.ofColor color c).scaledTarget).channel k).toNat + d =
        (source.channel k).toNat ∧
      |(d : ℚ) - ((source.channel k).toNat - (color.channel k).toNat) * share source mask| ≤
        1 / 2 + 1 / 2 ^ 11 := by
  have below := (pixel_between source color mask c k).2
  have close := abs_pixel_sub_mixture_le source color mask c k
  rw [max_eq_left falling] at below
  obtain ⟨d, hd⟩ := Nat.exists_eq_add_of_le below
  refine ⟨d, hd.symm, ?_⟩
  have cast : ((source.channel k).toNat : ℚ) =
      ((pixel source mask (Settings.ofColor color c).scaledTarget).channel k).toNat + d := by
    exact_mod_cast hd
  rw [mixture_eq, abs_sub_comm] at close
  convert close using 2
  linarith

/-- **A stronger mask takes no channel away from the color.** A channel below that of the color
does not fall, and one above it does not rise. -/
theorem pixel_mono (source color : Color) (c : Channel) {m n : UInt8} (weaker : m ≤ n) (k : ℕ) :
    let target := (Settings.ofColor color c).scaledTarget
    (source.channel k ≤ color.channel k →
      (pixel source m target).channel k ≤ (pixel source n target).channel k) ∧
    (color.channel k ≤ source.channel k →
      (pixel source n target).channel k ≤ (pixel source m target).channel k) := by
  simp only [UInt8.le_iff_toNat_le]
  obtain less | same := Nat.lt_or_eq_of_le (UInt8.le_iff_toNat_le.1 weaker)
  swap
  · obtain rfl := UInt8.toNat_inj.1 same
    exact ⟨fun _ => le_rfl, fun _ => le_rfl⟩
  have proportion (way : ℚ) :
      way * share source m * n.toNat = way * share source n * m.toNat := by
    rw [mul_assoc, share_mul, mul_assoc]
  constructor
  · intro rising
    obtain ⟨d, hd, near⟩ := rise_within rising c m
    obtain ⟨e, he, far⟩ := rise_within rising c n
    have := le_of_proportion less (proportion _) near far
    omega
  · intro falling
    obtain ⟨d, hd, near⟩ := fall_within falling c m
    obtain ⟨e, he, far⟩ := fall_within falling c n
    have := le_of_proportion less (proportion _) near far
    omega

/-- Two masks next to each other on a channel that rises and on one that falls. -/
theorem pixel_mono_pair :
    (100 : UInt8) ≤ 101 ∧
    (pixel ⟨200, 10, 90⟩ 100 (Settings.ofColor ⟨12, 200, 99⟩ .red).scaledTarget).g ≤
      (pixel ⟨200, 10, 90⟩ 101 (Settings.ofColor ⟨12, 200, 99⟩ .red).scaledTarget).g ∧
    (pixel ⟨200, 10, 90⟩ 101 (Settings.ofColor ⟨12, 200, 99⟩ .red).scaledTarget).r ≤
      (pixel ⟨200, 10, 90⟩ 100 (Settings.ofColor ⟨12, 200, 99⟩ .red).scaledTarget).r := by
  have weaker : (100 : UInt8) ≤ 101 := by decide
  refine ⟨weaker, ?_, ?_⟩
  · exact (pixel_mono ⟨200, 10, 90⟩ ⟨12, 200, 99⟩ .red weaker 1).1 (by decide)
  · exact (pixel_mono ⟨200, 10, 90⟩ ⟨12, 200, 99⟩ .red weaker 0).2 (by decide)

end Tint.Mix
