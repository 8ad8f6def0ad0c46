import Tint.Mix
import Tint.Proofs.Binary.Error

/-!
# How exact mixing is

A mixed channel is compared with the mixture in exact arithmetic, `mixture`, whose share
of the target is the part of the mask byte times the brightness of the source. About
fifteen rounded operations lead to it, and together they are off by less than `2 ^ (-11)`
(`blend_within`). Since bytes are a whole unit apart, rounding to a byte undoes all of it
wherever the exact mixture is between two bytes (`pixel_mem`). In particular a pixel does
not leave the range of its two colors (`pixel_between`), and it is one of them where the
share is zero or one (`pixel_eq_source`, `pixel_eq_color`).
-/

namespace Tint

open Binary

@[simp] theorem Rgb.channel_map {α β : Type} (f : α → β) (c : Rgb α) (k : ℕ) :
    (c.map f).channel k = f (c.channel k) := by
  match k with
  | 0 | 1 | _ + 2 => rfl

@[simp] theorem Rgb.channel_zipWith {α β γ : Type} (f : α → β → γ) (c : Rgb α) (d : Rgb β)
    (k : ℕ) : (c.zipWith f d).channel k = f (c.channel k) (d.channel k) := by
  match k with
  | 0 | 1 | _ + 2 => rfl

theorem Rgb.ext_channel {α : Type} {c d : Rgb α} (h : ∀ k, c.channel k = d.channel k) : c = d := by
  obtain ⟨r, g, b⟩ := c
  obtain ⟨r', g', b'⟩ := d
  obtain rfl : r = r' := h 0
  obtain rfl : g = g' := h 1
  obtain rfl : b = b' := h 2
  rfl

theorem denotes_ofByte (b : UInt8) : (ofByte b).Denotes b.toNat :=
  denotes_ofNat_single (by have := b.toNat_lt; omega)

theorem denotes_fullByte : fullByte.Denotes 255 := by
  exact_mod_cast denotes_ofNat_single (n := 255) (by norm_num)

theorem denotes_one : (ofNat 1 : Single).Denotes 1 := by
  exact_mod_cast denotes_ofNat_single (n := 1) (by norm_num)

theorem byte_le (b : UInt8) : (b.toNat : ℚ) ≤ 255 := by
  have := b.toNat_lt
  have : b.toNat ≤ 255 := by omega
  exact_mod_cast this

theorem abs_byte_le (b : UInt8) : |(b.toNat : ℚ)| ≤ 255 := by
  rw [abs_of_nonneg (Nat.cast_nonneg _)]
  exact byte_le b

namespace Mix

/-! ### The exact mixture -/

/-- The brightness of a color, from 0 to 1. -/
def brightness (c : Color) : ℚ :=
  (c.r.toNat * (299 / 1000) + c.g.toNat * (587 / 1000) + c.b.toNat * (114 / 1000)) / 255

/-- The share of the target in a mixed color. -/
def share (source : Color) (mask : UInt8) : ℚ := mask.toNat / 255 * brightness source

/-- A channel mixed in exact arithmetic. -/
def mixture (source target : UInt8) (share : ℚ) : ℚ :=
  source.toNat * (1 - share) + target.toNat * share

theorem brightness_mem (c : Color) : 0 ≤ brightness c ∧ brightness c ≤ 1 := by
  have hr := byte_le c.r
  have hg := byte_le c.g
  have hb := byte_le c.b
  refine ⟨by rw [brightness]; positivity, ?_⟩
  rw [brightness, div_le_one (by norm_num)]
  linarith

theorem share_mem (source : Color) (mask : UInt8) : 0 ≤ share source mask ∧ share source mask ≤ 1 := by
  obtain ⟨nonneg, le_one⟩ := brightness_mem source
  have hm := byte_le mask
  have part : (mask.toNat : ℚ) / 255 ≤ 1 := by rwa [div_le_one (by norm_num)]
  exact ⟨mul_nonneg (by positivity) nonneg, mul_le_one₀ part nonneg le_one⟩

/-- The exact mixture is between its two colors. -/
theorem mixture_mem (source target : UInt8) {s : ℚ} (h0 : 0 ≤ s) (h1 : s ≤ 1) :
    ((min source.toNat target.toNat : ℕ) : ℚ) ≤ mixture source target s ∧
      mixture source target s ≤ (max source.toNat target.toNat : ℕ) := by
  rw [mixture, Nat.cast_min, Nat.cast_max]
  constructor
  · have hs := min_le_left (source.toNat : ℚ) target.toNat
    have ht := min_le_right (source.toNat : ℚ) target.toNat
    nlinarith
  · have hs := le_max_left (source.toNat : ℚ) target.toNat
    have ht := le_max_right (source.toNat : ℚ) target.toNat
    nlinarith

/-! ### The rounded mixture -/

theorem weight_within (mask : UInt8) : Within (weight mask) (mask.toNat / 255) (3 / 2 ^ 24) := by
  have part : Within (ofNat 1 / fullByte) (1 / 255) (1 / 255 / 2 ^ 24 + 1 / 2 ^ 150) :=
    denotes_one.within.div denotes_fullByte (by norm_num) (B := 1 / 255) (by norm_num)
      (by norm_num) (by norm_num)
  have := (denotes_ofByte mask).within.mul part (X := 255) (Y := 1 / 255) (e := 3 / 2 ^ 24)
    (abs_byte_le mask) (by norm_num) (by norm_num) (by norm_num)
  rwa [mul_one_div] at this

/-- A byte times a weight of the luminance. -/
theorem luma_within (b : UInt8) {n : ℕ} (h : n ≤ 1000) :
    Within (ofByte b * ofRatio n 1000) (b.toNat * (n / 1000)) ((511 * (n / 1000) + 1) / 2 ^ 24) := by
  have part : (n / 1000 : ℚ) ≤ 1 := by
    rw [div_le_one (by norm_num)]
    exact_mod_cast h
  have size : |(n / 1000 : ℚ)| ≤ n / 1000 := (abs_of_nonneg (by positivity)).le
  have ratio : Within (ofRatio n 1000) (n / 1000) (n / 1000 / 2 ^ 24 + 1 / 2 ^ 150) :=
    ⟨_, denotes_ofRatio n (by norm_num) (by rw [top_single]; exact_mod_cast part.trans (by norm_num)),
      by exact_mod_cast abs_near_single_sub_le size⟩
  have nonneg : (0 : ℚ) ≤ n / 1000 := by positivity
  refine (denotes_ofByte b).within.mul ratio (abs_byte_le b) size ?_ ?_ <;>
    · generalize (n / 1000 : ℚ) = q at part nonneg
      norm_num
      linarith

/-- The luminance is off the brightness by a few units of its last place. -/
theorem luminance_within (c : Color) :
    Within (luminance (c.map ofByte)) (brightness c) (6 / 2 ^ 24) := by
  have hr := byte_le c.r
  have hg := byte_le c.g
  have hb := byte_le c.b
  have nonnegR : (0 : ℚ) ≤ c.r.toNat := Nat.cast_nonneg _
  have nonnegG : (0 : ℚ) ≤ c.g.toNat := Nat.cast_nonneg _
  have nonnegB : (0 : ℚ) ≤ c.b.toNat := Nat.cast_nonneg _
  have red := luma_within c.r (n := 299) (by norm_num)
  have green := luma_within c.g (n := 587) (by norm_num)
  have blue := luma_within c.b (n := 114) (by norm_num)
  have two := red.add green (B := 226) (e := 682 / 2 ^ 24)
    (by push_cast; rw [abs_of_nonneg (by positivity)]; linarith) (by norm_num) (by norm_num)
  have three := two.add blue (B := 255) (e := 998 / 2 ^ 24)
    (by push_cast; rw [abs_of_nonneg (by positivity)]; linarith) (by norm_num) (by norm_num)
  have scaled := three.div denotes_fullByte (by norm_num) (B := 1) (e := 6 / 2 ^ 24)
    (by push_cast; rw [abs_of_nonneg (by positivity), div_le_one (by norm_num)]; linarith)
    (by norm_num) (by norm_num)
  exact_mod_cast scaled

/-- The share of the target as it is computed. -/
theorem amount_within (source : Color) (mask : UInt8) :
    ∃ v, (amount (weight mask) (luminance (source.map ofByte))).Denotes v ∧
      |v - share source mask| ≤ 11 / 2 ^ 24 ∧ 0 ≤ v ∧ v ≤ 1 := by
  obtain ⟨h0, h1⟩ := share_mem source mask
  obtain ⟨b0, b1⟩ := brightness_mem source
  have hm := byte_le mask
  have part : (mask.toNat : ℚ) / 255 ≤ 1 := by rwa [div_le_one (by norm_num)]
  have product := (weight_within mask).mul (luminance_within source) (X := 1) (Y := 1)
    (e := 11 / 2 ^ 24) (by rwa [abs_of_nonneg (by positivity)]) (by rwa [abs_of_nonneg b0])
    (by norm_num) (by norm_num)
  exact product.clamp denotes_zero denotes_one h0 h1

/-- The target as the settings keep it, scaled back. -/
theorem target_within (c : UInt8) :
    Within (ofByte c / fullByte * fullByte) c.toNat (512 / 2 ^ 24) := by
  have part : |(c.toNat : ℚ) / 255| ≤ 1 := by
    rw [abs_of_nonneg (by positivity), div_le_one (by norm_num)]
    exact byte_le c
  have quotient := (denotes_ofByte c).within.div denotes_fullByte (by norm_num) (B := 1)
    (e := 1 / 2 ^ 24 + 1 / 2 ^ 150) part (by norm_num) (by norm_num)
  have product := quotient.mul denotes_fullByte.within (X := 1) (Y := 255) (e := 512 / 2 ^ 24)
    part (by norm_num) (by norm_num) (by norm_num)
  rwa [div_mul_cancel₀ _ (by norm_num)] at product

/-- A mixed channel is off the exact mixture by less than `2 ^ (-11)`. -/
theorem blend_within (source color : Color) (mask : UInt8) (c : Channel) (k : ℕ) :
    Within ((blend (source.map ofByte) (weight mask) (Settings.ofColor color c).scaledTarget).channel k)
      (mixture (source.channel k) (color.channel k) (share source mask)) (1 / 2 ^ 11) := by
  obtain ⟨take, denotes, error, h0, h1⟩ := amount_within source mask
  obtain ⟨s0, s1⟩ := share_mem source mask
  set s := share source mask
  have taken : Within (amount (weight mask) (luminance (source.map ofByte))) s (11 / 2 ^ 24) :=
    ⟨take, denotes, error⟩
  have keep : |1 - s| ≤ 1 := by rw [abs_of_nonneg] <;> linarith
  have size : |s| ≤ 1 := by rwa [abs_of_nonneg s0]
  have kept := denotes_one.within.sub taken (e := 13 / 2 ^ 24) keep (by norm_num) (by norm_num)
  have own := (denotes_ofByte (source.channel k)).within.mul kept (X := 255) (Y := 1)
    (e := 3600 / 2 ^ 24) (abs_byte_le _) keep (by norm_num) (by norm_num)
  have other := (target_within (color.channel k)).mul taken (X := 255) (Y := 1)
    (e := 3600 / 2 ^ 24) (abs_byte_le _) size (by norm_num) (by norm_num)
  obtain ⟨low, high⟩ := mixture_mem (source.channel k) (color.channel k) s0 s1
  have range : |mixture (source.channel k) (color.channel k) s| ≤ 255 := by
    rw [abs_of_nonneg (low.trans' (Nat.cast_nonneg _))]
    refine high.trans ?_
    rw [Nat.cast_max]
    exact max_le (byte_le _) (byte_le _)
  have sum := own.add other (B := 255) (e := 1 / 2 ^ 11) range (by norm_num) (by norm_num)
  simpa [blend, channel, Settings.ofColor, Settings.scaledTarget, mixture] using sum

/-- **A mixed pixel is in every range of bytes that its exact mixture is in.** -/
theorem pixel_mem (source color : Color) (mask : UInt8) (c : Channel) (k : ℕ) {low high : ℕ}
    (hl : low ≤ mixture (source.channel k) (color.channel k) (share source mask))
    (hh : mixture (source.channel k) (color.channel k) (share source mask) ≤ high)
    (limit : high ≤ 255) :
    low ≤ ((pixel source mask (Settings.ofColor color c).scaledTarget).channel k).toNat ∧
      ((pixel source mask (Settings.ofColor color c).scaledTarget).channel k).toNat ≤ high := by
  have within := blend_within source color mask c k
  have := within.toNatBy_mem isNearest_divEven hl hh (by norm_num) limit
  rw [pixel, Rgb.channel_map, quantize, roundEvenTo, UInt8.toNat_ofNat',
    Nat.mod_eq_of_lt (by omega)]
  exact this

/-! ### Mixed pixels -/

/-- A mixed pixel is between its two colors. -/
theorem pixel_between (source color : Color) (mask : UInt8) (c : Channel) (k : ℕ) :
    min (source.channel k).toNat (color.channel k).toNat ≤
        ((pixel source mask (Settings.ofColor color c).scaledTarget).channel k).toNat ∧
      ((pixel source mask (Settings.ofColor color c).scaledTarget).channel k).toNat ≤
        max (source.channel k).toNat (color.channel k).toNat := by
  obtain ⟨s0, s1⟩ := share_mem source mask
  obtain ⟨low, high⟩ := mixture_mem (source.channel k) (color.channel k) s0 s1
  refine pixel_mem source color mask c k low high ?_
  have := (source.channel k).toNat_lt
  have := (color.channel k).toNat_lt
  omega

theorem pixel_eq {source color result : Color} {mask : UInt8} (c : Channel)
    (h : ∀ k, mixture (source.channel k) (color.channel k) (share source mask) =
      (result.channel k).toNat) :
    pixel source mask (Settings.ofColor color c).scaledTarget = result := by
  refine Rgb.ext_channel ?_
  intro k
  have limit := (result.channel k).toNat_lt
  obtain ⟨low, high⟩ := pixel_mem source color mask c k (h k).ge (h k).le (by omega)
  exact UInt8.toNat_inj.1 (by omega)

theorem share_black (mask : UInt8) : share ⟨0, 0, 0⟩ mask = 0 := by
  simp [share, brightness]

theorem share_zero (source : Color) : share source 0 = 0 := by
  simp [share]

theorem share_white : share ⟨255, 255, 255⟩ 255 = 1 := by
  simp only [share, brightness, UInt8.reduceToNat]
  norm_num

/-- Where nothing is taken, a pixel stays as it is. -/
theorem pixel_eq_source {source : Color} {mask : UInt8} (color : Color) (c : Channel)
    (h : share source mask = 0) :
    pixel source mask (Settings.ofColor color c).scaledTarget = source :=
  pixel_eq c fun k => by rw [mixture, h, sub_zero, mul_one, mul_zero, add_zero]

/-- Where all is taken, a pixel is the color. -/
theorem pixel_eq_color {source : Color} {mask : UInt8} (color : Color) (c : Channel)
    (h : share source mask = 1) :
    pixel source mask (Settings.ofColor color c).scaledTarget = color :=
  pixel_eq c fun k => by rw [mixture, h, sub_self, mul_zero, mul_one, zero_add]

end Mix

end Tint
