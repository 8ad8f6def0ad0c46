import Tint.Plane
import Tint.Proofs.Mixing

/-!
# Sampling stays on the plane and between its texels

A plane whose sides are at most `2 ^ 24`, the whole numbers that 32 bits hold exactly, is
read at the centre of a pixel of another size. The centre is a number from 0 to 1 in spite
of rounding (`centre_mem`), its place is between the first and the last texel of each axis
(`position_mem`), and so the four texels that are read are on the plane. Their weights are
off those of exact bilinear sampling by a few units of the last place
(`mixture_within`), and the byte that is made of them is between the least and the
greatest of the four (`sample?_mem`).

`Plane.footprint` is the list of the places that a pixel's weight is made from, and
`weights_mem` says all this of the weights of a mask at any size.
-/

namespace Tint

open Binary

/-! ### Places -/

theorem denotes_half : (ofRatio 1 2 : Single).Denotes (1 / 2) := by
  have h := denotes_ofRatio (f := Format.single) 1 two_pos (by rw [top_single]; norm_num)
  have half := Format.near_of_fits (f := Format.single) (m := 1) (e := 1) (by decide) (by decide)
  norm_num at h half
  rwa [half] at h

theorem place_mod {w x : ℕ} (y : ℕ) (hx : x < w) : (y * w + x) % w = x := by
  rw [Nat.mul_comm, Nat.mul_add_mod, Nat.mod_eq_of_lt hx]

theorem place_div {w x : ℕ} (y : ℕ) (hx : x < w) : (y * w + x) / w = y := by
  rw [Nat.mul_comm, Nat.mul_add_div (by omega), Nat.div_eq_of_lt hx, Nat.add_zero]

namespace Plane

variable {x y u v s t : ℚ}

/-- The number before a centre is divided: it is not above its divisor. -/
theorem near_half_le {length i : ℕ} (h : i < length) :
    Format.single.near (Format.single.near i + 1 / 2) ≤ Format.single.near length := by
  have next : ((i + 1 : ℕ) : ℚ) ≤ length := by exact_mod_cast h
  rcases le_or_gt (2 ^ 24) i with large | small
  · rw [Format.near_add_half (f := Format.single) large]
    exact Format.near_mono (by push_cast at next; linarith)
  · rw [Format.near_natCast (f := Format.single) small.le]
    exact Format.near_mono (by push_cast at next; linarith)

theorem ofNat_mem {n : ℕ} (h : n < 2 ^ 32) :
    (ofNat n : Single).Denotes (Format.single.near n) ∧ 0 ≤ Format.single.near n ∧
      Format.single.near n ≤ 2 ^ 33 := by
  have le : (n : ℚ) ≤ 2 ^ 32 := by exact_mod_cast h.le
  refine ⟨denotes_ofNat ?_, Format.near_nonneg (Nat.cast_nonneg _), ?_⟩
  · rw [top_single]
    exact le.trans (by norm_num)
  · have error := abs_near_single_sub_le (x := n) (B := 2 ^ 32) (by rwa [Nat.abs_cast])
    calc Format.single.near n ≤ n + (2 ^ 32 / 2 ^ 24 + 1 / 2 ^ 150) :=
          sub_le_iff_le_add'.1 (abs_sub_le_iff.1 error).1
      _ ≤ 2 ^ 32 + (2 ^ 32 / 2 ^ 24 + 1 / 2 ^ 150) := by gcongr
      _ ≤ 2 ^ 33 := by norm_num

/-- The centre of a pixel as a rational, rounded as it is computed. -/
def centreValue (length i : ℕ) : ℚ :=
  Format.single.near
    (Format.single.near (Format.single.near i + 1 / 2) / Format.single.near length)

theorem one_le_near {length : ℕ} (pos : 0 < length) : 1 ≤ Format.single.near length := by
  have one : Format.single.near (1 : ℕ) = (1 : ℕ) :=
    Format.near_natCast (f := Format.single) (by decide)
  rw [Nat.cast_one] at one
  rw [← one]
  exact Format.near_mono (by exact_mod_cast pos)

/-- The centre of a pixel is a number from 0 to 1. -/
theorem denotes_centre {length i : ℕ} (h : i < length) (bound : length < 2 ^ 32) :
    (centre length i).Denotes (centreValue length i) ∧ 0 ≤ centreValue length i ∧
      centreValue length i ≤ 1 := by
  obtain ⟨hi, i0, i1⟩ := ofNat_mem (h.trans bound)
  obtain ⟨hlength, -, -⟩ := ofNat_mem bound
  have pos : 1 ≤ Format.single.near length := one_le_near (Nat.zero_lt_of_lt h)
  have le := near_half_le h
  have nonneg : 0 ≤ Format.single.near (Format.single.near i + 1 / 2) :=
    Format.near_nonneg (by linarith)
  have top : (2 : ℚ) ^ 33 + 1 / 2 ≤ 2 ^ 127 := by norm_num
  have sum := hi.add denotes_half (by rw [abs_of_nonneg (by linarith), top_single]; linarith)
  rw [centreValue]
  set w := Format.single.near (Format.single.near i + 1 / 2)
  have low : 0 ≤ w / Format.single.near length := div_nonneg nonneg (by linarith)
  have high : w / Format.single.near length ≤ 1 := by rwa [div_le_one (by linarith)]
  have denotes := sum.div hlength (by linarith)
    (by rw [abs_of_nonneg low, top_single]; exact high.trans (by norm_num))
  refine ⟨denotes, ?_⟩
  have := Format.near_mem_Icc (f := Format.single) (a := 0) (b := 1) (by decide)
    (by simpa using low) (by simpa using high)
  simpa using this

theorem centre_mem {length i : ℕ} (h : i < length) (bound : length < 2 ^ 32) :
    ∃ u, (centre length i).Denotes u ∧ 0 ≤ u ∧ u ≤ 1 :=
  ⟨_, denotes_centre h bound⟩

/-- The place of a number on an axis as a rational, rounded as it is computed. -/
def placeValue (length : ℕ) (u : ℚ) : ℚ :=
  (Format.single.near (Format.single.near (Format.single.near length * u) - 1 / 2) ⊔ 0) ⊓
    Format.single.near (length - 1 : ℕ)

theorem placeValue_nonneg (length : ℕ) (u : ℚ) : 0 ≤ placeValue length u :=
  le_inf le_sup_right (Format.near_nonneg (Nat.cast_nonneg _))

theorem placeValue_le {length : ℕ} (bound : length ≤ 2 ^ 24) (u : ℚ) :
    placeValue length u ≤ (length - 1 : ℕ) := by
  rw [placeValue, Format.near_natCast (f := Format.single) (m := length - 1)
    ((Nat.sub_le _ _).trans bound)]
  exact inf_le_right

/-- The place of a number from 0 to 1 is computed without leaving the format. -/
theorem denotes_position {length : ℕ} (bound : length < 2 ^ 32) {a : Single}
    (ha : a.Denotes u) (h0 : 0 ≤ u) (h1 : u ≤ 1) :
    (position length a).Denotes (placeValue length u) := by
  obtain ⟨hlength, l0, l1⟩ := ofNat_mem bound
  obtain ⟨hlast, -, -⟩ := ofNat_mem (show length - 1 < 2 ^ 32 by omega)
  have nonneg : 0 ≤ Format.single.near length * u := mul_nonneg l0 h0
  have le : Format.single.near length * u ≤ 2 ^ 33 := (mul_le_of_le_one_right l0 h1).trans l1
  have product := hlength.mul ha
    (by rw [abs_of_nonneg nonneg, top_single]; exact le.trans (by norm_num))
  have error := abs_le_add (abs_near_single_sub_le (x := Format.single.near length * u)
    (B := 2 ^ 33) (by rwa [abs_of_nonneg nonneg])) (B := 2 ^ 33) (by rwa [abs_of_nonneg nonneg])
  have shifted := product.sub denotes_half (by
    rw [top_single]
    refine (abs_sub _ _).trans ((add_le_add_left error _).trans ?_)
    norm_num)
  exact (shifted.max denotes_zero).min hlast

/-- The place of a number from 0 to 1 is between the first and the last texel. -/
theorem position_mem {length : ℕ} (bound : length ≤ 2 ^ 24) {a : Single} (ha : a.Denotes u)
    (h0 : 0 ≤ u) (h1 : u ≤ 1) :
    ∃ x, (position length a).Denotes x ∧ 0 ≤ x ∧ x ≤ (length - 1 : ℕ) :=
  ⟨_, denotes_position (by omega) ha h0 h1, placeValue_nonneg length u, placeValue_le bound u⟩

/-- The texels next to a place are on either side of it, and weighed by its distance to the other
one. -/
theorem pairAt_floor {length : ℕ} (pos : 0 < length) (bound : length ≤ 2 ^ 24) {a : Single}
    (ha : a.Denotes x) (h0 : 0 ≤ x) (h1 : x ≤ (length - 1 : ℕ)) :
    (pairAt length a).low = ⌊x⌋₊ ∧ (pairAt length a).high = (⌊x⌋₊ + 1) ⊓ (length - 1) ∧
      Within (pairAt length a).lowWeight (1 - (x - ⌊x⌋₊)) (2 / 2 ^ 24) ∧
      Within (pairAt length a).highWeight (x - ⌊x⌋₊) (2 / 2 ^ 24) := by
  have floor_le : ⌊x⌋₊ ≤ length - 1 := Nat.floor_le_of_le h1
  have low : a.floorTo 4294967295 = ⌊x⌋₊ := by
    rw [ha.floorTo_eq h0]
    exact Nat.min_eq_left (by omega)
  have below := Nat.floor_le h0
  have above := Nat.lt_floor_add_one x
  have lowDenotes := denotes_ofNat_single (n := ⌊x⌋₊) (by omega)
  have highDenotes := denotes_ofNat_single (n := ⌊x⌋₊ + 1) (by omega)
  refine ⟨low, by rw [pairAt, low], ?_, ?_⟩ <;> simp only [pairAt, low]
  · have := highDenotes.within.sub ha.within (B := 1) (e := 2 / 2 ^ 24)
      (by push_cast; rw [abs_of_nonneg] <;> linarith) (by norm_num) (by norm_num)
    convert this using 1
    push_cast
    ring
  · exact ha.within.sub lowDenotes.within (B := 1) (by rw [abs_of_nonneg] <;> linarith)
      (by norm_num) (by norm_num)

theorem pairAt_mem {length : ℕ} (pos : 0 < length) (bound : length ≤ 2 ^ 24) {a : Single}
    (ha : a.Denotes x) (h0 : 0 ≤ x) (h1 : x ≤ (length - 1 : ℕ)) :
    (pairAt length a).low < length ∧ (pairAt length a).high < length ∧
      ∃ s, 0 ≤ s ∧ s ≤ 1 ∧ Within (pairAt length a).lowWeight (1 - s) (2 / 2 ^ 24) ∧
        Within (pairAt length a).highWeight s (2 / 2 ^ 24) := by
  obtain ⟨low, high, lower, upper⟩ := pairAt_floor pos bound ha h0 h1
  have floor_le : ⌊x⌋₊ ≤ length - 1 := Nat.floor_le_of_le h1
  have below := Nat.floor_le h0
  have above := Nat.lt_floor_add_one x
  refine ⟨by omega, ?_, x - ⌊x⌋₊, by linarith, by linarith, lower, upper⟩
  rw [high]
  exact (Nat.min_le_right _ _).trans_lt (by omega)

/-! ### The four texels -/

/-- Four bytes weighted by their nearness, in exact arithmetic. -/
def bilinear (s t : ℚ) (p00 p01 p10 p11 : UInt8) : ℚ :=
  (1 - s) * (1 - t) * p00.toNat + (1 - s) * t * p01.toNat + s * (1 - t) * p10.toNat +
    s * t * p11.toNat

/-- An exact weighted mean is between the bounds of its bytes. -/
theorem bilinear_mem {low high : ℕ} {p00 p01 p10 p11 : UInt8} (s0 : 0 ≤ s) (s1 : s ≤ 1)
    (t0 : 0 ≤ t) (t1 : t ≤ 1) (h : ∀ b ∈ [p00, p01, p10, p11], low ≤ b.toNat ∧ b.toNat ≤ high) :
    low ≤ bilinear s t p00 p01 p10 p11 ∧ bilinear s t p00 p01 p10 p11 ≤ high := by
  have w00 : 0 ≤ (1 - s) * (1 - t) := mul_nonneg (by linarith) (by linarith)
  have w01 : 0 ≤ (1 - s) * t := mul_nonneg (by linarith) t0
  have w10 : 0 ≤ s * (1 - t) := mul_nonneg s0 (by linarith)
  have w11 : 0 ≤ s * t := mul_nonneg s0 t0
  have bounds (b : UInt8) (hb : b ∈ [p00, p01, p10, p11]) :
      (low : ℚ) ≤ b.toNat ∧ (b.toNat : ℚ) ≤ high := by
    exact_mod_cast h b hb
  obtain ⟨l00, u00⟩ := bounds p00 (by simp)
  obtain ⟨l01, u01⟩ := bounds p01 (by simp)
  obtain ⟨l10, u10⟩ := bounds p10 (by simp)
  obtain ⟨l11, u11⟩ := bounds p11 (by simp)
  constructor
  · calc (low : ℚ) = (1 - s) * (1 - t) * low + (1 - s) * t * low + s * (1 - t) * low + s * t * low := by
          ring
      _ ≤ bilinear s t p00 p01 p10 p11 := by rw [bilinear]; gcongr
  · calc bilinear s t p00 p01 p10 p11
        ≤ (1 - s) * (1 - t) * high + (1 - s) * t * high + s * (1 - t) * high + s * t * high := by
          rw [bilinear]; gcongr
      _ = high := by ring

theorem term_within {a b : Single} {s t : ℚ} (p : UInt8) (ha : Within a s (2 / 2 ^ 24))
    (hb : Within b t (2 / 2 ^ 24)) (hs : |s| ≤ 1) (ht : |t| ≤ 1) :
    Within (a * b * ofByte p) (s * t * p.toNat) (1600 / 2 ^ 24) := by
  have weight := ha.mul hb hs ht (e := 5.1 / 2 ^ 24) (by norm_num) (by norm_num)
  have size : |s * t| ≤ 1 := by
    rw [abs_mul]
    exact mul_le_one₀ hs (abs_nonneg _) ht
  exact weight.mul (denotes_ofByte p).within size (abs_byte_le p) (by norm_num) (by norm_num)

/-- The sum of the four weighted bytes is off the exact one by less than `2 ^ (-11)`. -/
theorem mixture_within {x y : Pair} (p00 p01 p10 p11 : UInt8) (s0 : 0 ≤ s) (s1 : s ≤ 1)
    (t0 : 0 ≤ t) (t1 : t ≤ 1) (xl : Within x.lowWeight (1 - s) (2 / 2 ^ 24))
    (xh : Within x.highWeight s (2 / 2 ^ 24)) (yl : Within y.lowWeight (1 - t) (2 / 2 ^ 24))
    (yh : Within y.highWeight t (2 / 2 ^ 24)) :
    Within (mixture x y p00 p01 p10 p11) (bilinear s t p00 p01 p10 p11) (1 / 2 ^ 11) := by
  have hs : |s| ≤ 1 := by rwa [abs_of_nonneg s0]
  have ht : |t| ≤ 1 := by rwa [abs_of_nonneg t0]
  have hs' : |1 - s| ≤ 1 := by rw [abs_of_nonneg] <;> linarith
  have ht' : |1 - t| ≤ 1 := by rw [abs_of_nonneg] <;> linarith
  -- Partial sums are means of fewer bytes, the others zero, and so bytes bound them too.
  have partial_le (b c d e : UInt8) : |bilinear s t b c d e| ≤ 255 := by
    have bytes (b : UInt8) : 0 ≤ b.toNat ∧ b.toNat ≤ 255 :=
      ⟨Nat.zero_le _, by have := b.toNat_lt; omega⟩
    have := @bilinear_mem s t 0 255 b c d e s0 s1 t0 t1 (fun b _ => bytes b)
    rw [abs_of_nonneg (by simpa using this.1)]
    exact_mod_cast this.2
  have two := (term_within p00 xl yl hs' ht').add (term_within p01 xl yh hs' ht) (B := 255)
    (e := 3500 / 2 ^ 24) (by simpa [bilinear] using partial_le p00 p01 0 0)
    (by norm_num) (by norm_num)
  have three := two.add (term_within p10 xh yl hs ht') (B := 255) (e := 5500 / 2 ^ 24)
    (by simpa [bilinear] using partial_le p00 p01 p10 0) (by norm_num) (by norm_num)
  exact three.add (term_within p11 xh yh hs ht) (B := 255) (partial_le p00 p01 p10 p11)
    (by norm_num) (by norm_num)

/-! ### Samples -/

theorem exists_texel? (p : Plane) {x y : ℕ} (hx : x < p.extent.width) (hy : y < p.extent.height) :
    ∃ b, p.texel? x y = some b := by
  have place : y * p.extent.width + x < p.bytes.size := by
    rw [p.size_eq]
    exact Extent.place_lt hx hy
  exact ⟨p.bytes[y * p.extent.width + x], by
    rw [texel?, if_pos ⟨hx, hy⟩, Array.getElem?_eq_getElem place]⟩

/-- The places of the texels that a sample reads. -/
def corners (p : Plane) (u v : Single) : List (ℕ × ℕ) :=
  let x := pairAt p.extent.width (position p.extent.width u)
  let y := pairAt p.extent.height (position p.extent.height v)
  [(x.low, y.low), (x.low, y.high), (x.high, y.low), (x.high, y.high)]

/-- A sample is there, and it is between the bounds of the texels that it reads. -/
theorem sample?_mem (p : Plane) (hw : 0 < p.extent.width) (hh : 0 < p.extent.height)
    (wide : p.extent.width ≤ 2 ^ 24) (tall : p.extent.height ≤ 2 ^ 24) {a b : Single}
    (ha : a.Denotes u) (u0 : 0 ≤ u) (u1 : u ≤ 1) (hb : b.Denotes v) (v0 : 0 ≤ v) (v1 : v ≤ 1) :
    ∃ byte, p.sample? a b = some byte ∧ ∀ low high : ℕ,
      (∀ c ∈ p.corners a b, ∃ t, p.texel? c.1 c.2 = some t ∧ low ≤ t.toNat ∧ t.toNat ≤ high) →
      low ≤ byte.toNat ∧ byte.toNat ≤ high := by
  obtain ⟨x, hx, x0, x1⟩ := position_mem wide ha u0 u1
  obtain ⟨y, hy, y0, y1⟩ := position_mem tall hb v0 v1
  obtain ⟨xlow, xhigh, s, s0, s1, xl, xh⟩ := pairAt_mem hw wide hx x0 x1
  obtain ⟨ylow, yhigh, t, t0, t1, yl, yh⟩ := pairAt_mem hh tall hy y0 y1
  have parts : (!(isPart a && isPart b)) = false := by
    simp [isPart, denotes_zero.le_iff ha, ha.le_iff denotes_one, denotes_zero.le_iff hb,
      hb.le_iff denotes_one, u0, u1, v0, v1]
  simp only [corners, sample?, parts]
  set i := pairAt p.extent.width (position p.extent.width a)
  set j := pairAt p.extent.height (position p.extent.height b)
  obtain ⟨p00, h00⟩ := p.exists_texel? xlow ylow
  obtain ⟨p01, h01⟩ := p.exists_texel? xlow yhigh
  obtain ⟨p10, h10⟩ := p.exists_texel? xhigh ylow
  obtain ⟨p11, h11⟩ := p.exists_texel? xhigh yhigh
  refine ⟨UInt8.ofNat ((mixture i j p00 p01 p10 p11).roundAwayTo 255),
    by simp [h00, h01, h10, h11], fun low high bounds => ?_⟩
  have bytes : ∀ b ∈ [p00, p01, p10, p11], low ≤ b.toNat ∧ b.toNat ≤ min high 255 := by
    have limit (b : UInt8) : b.toNat ≤ 255 := by
      have := b.toNat_lt
      omega
    simp only [List.forall_mem_cons, h00, h01, h10, h11, Option.some.injEq, exists_eq_left'] at bounds
    simpa [limit] using bounds
  have exact_mem := bilinear_mem s0 s1 t0 t1 bytes
  have within := mixture_within p00 p01 p10 p11 s0 s1 t0 t1 xl xh yl yh
  have := within.toNatBy_mem isNearest_divHalfUp exact_mem.1 exact_mem.2 (by norm_num)
    (min_le_right high 255)
  rw [UInt8.toNat_ofNat', roundAwayTo, Nat.mod_eq_of_lt (by omega)]
  exact ⟨this.1, this.2.trans (min_le_left _ _)⟩

/-- The places of the texels that the weight of a pixel is made from: the pixel itself on
a plane of the wanted size, else the texels next to its centre. -/
def footprint (p : Plane) (target : Extent) (x y : ℕ) : List (ℕ × ℕ) :=
  if p.extent = target then [(x, y)]
  else p.corners (centre target.width x) (centre target.height y)

/-- If there is a sample for each pixel, then the samples make a plane. -/
theorem resample_of_samples (p : Plane) {target : Extent} (nonempty : ¬ target.IsEmpty)
    (there : ∀ x y, x < target.width → y < target.height →
      ∃ byte, p.sample? (centre target.width x) (centre target.height y) = some byte) :
    ∃ w, p.resample target = .ok w ∧ w.extent = target ∧
      ∀ x y, x < target.width → y < target.height → ∃ byte, w.texel? x y = some byte ∧
        p.sample? (centre target.width x) (centre target.height y) = some byte := by
  obtain ⟨width, height⟩ := not_or.1 nonempty
  have all : (p.samples target).all Option.isSome = true := by
    rw [Array.all_eq_true]
    intro i hi
    simp only [samples, Array.size_ofFn] at hi
    obtain ⟨byte, h⟩ := there (i % target.width) (i / target.width)
      (Nat.mod_lt i (Nat.pos_of_ne_zero width)) (Nat.div_lt_of_lt_mul hi)
    simp [samples, h]
  obtain ⟨last, hlast⟩ := there (target.width - 1) (target.height - 1) (by omega) (by omega)
  have first : (p.sample? (centre target.width (target.width - 1))
      (centre target.height (target.height - 1))).isNone = false := by
    rw [hlast]
    rfl
  refine ⟨_, by simp only [resample, first, Bool.false_eq_true, if_false]; exact if_pos all, rfl, ?_⟩
  intro x y hx hy
  have inside := Extent.place_lt hx hy
  obtain ⟨byte, h⟩ := there x y hx hy
  refine ⟨byte, ?_, h⟩
  rw [texel?, if_pos ⟨hx, hy⟩, Array.getElem?_map,
    Array.getElem?_eq_getElem (by simpa [samples] using inside)]
  simp [samples, place_mod y hx, place_div y hx, h]

/-- A plane of moderate sides at another size: there is a sample for each pixel. -/
theorem resample_mem (p : Plane) {target : Extent} (nonempty : ¬ target.IsEmpty)
    (hw : 0 < p.extent.width) (hh : 0 < p.extent.height) (wide : p.extent.width ≤ 2 ^ 24)
    (tall : p.extent.height ≤ 2 ^ 24) :
    ∃ w, p.resample target = .ok w ∧ w.extent = target ∧
      ∀ x y, x < target.width → y < target.height → ∃ byte, w.texel? x y = some byte ∧
        p.sample? (centre target.width x) (centre target.height y) = some byte := by
  have exists_sample {x y : ℕ} (hx : x < target.width) (hy : y < target.height) :
      ∃ byte, p.sample? (centre target.width x) (centre target.height y) = some byte := by
    obtain ⟨u, hu, u0, u1⟩ := centre_mem hx (by simpa using target.width_lt)
    obtain ⟨v, hv, v0, v1⟩ := centre_mem hy (by simpa using target.height_lt)
    obtain ⟨byte, h, -⟩ := p.sample?_mem hw hh wide tall hu u0 u1 hv v0 v1
    exact ⟨byte, h⟩
  exact p.resample_of_samples nonempty fun x y hx hy => exists_sample hx hy

end Plane

/-! ### The weights of a mask -/

namespace Frame

theorem plane_extent {mask : Frame} {channel : Channel} {p : Plane}
    (h : mask.plane channel = .ok p) : p.extent = mask.extent := by
  rw [plane] at h
  split at h
  · cases h
  · cases h
    rfl

theorem plane_resolved {mask : Frame} {channel : Channel} {p : Plane}
    (h : mask.plane channel = .ok p) : mask.plane channel.resolved = .ok p := by
  obtain ⟨extent, layout, bytes, nonempty, size⟩ := mask
  cases channel <;> cases layout <;> exact h

/-- **A weight is between the bounds of the texels that it is made from.** There is one for
each pixel, at every size. -/
theorem weights_mem {mask : Frame} {channel : Channel} {p : Plane}
    (accepted : mask.plane channel = .ok p) (wide : mask.extent.width ≤ 2 ^ 24)
    (tall : mask.extent.height ≤ 2 ^ 24) {target : Extent} (nonempty : ¬ target.IsEmpty) :
    ∃ w, mask.weights channel target = .ok w ∧ w.extent = target ∧
      ∀ x y, x < target.width → y < target.height → ∃ byte, w.texel? x y = some byte ∧
        ∀ low high : ℕ, (∀ c ∈ p.footprint target x y,
          ∃ t, p.texel? c.1 c.2 = some t ∧ low ≤ t.toNat ∧ t.toNat ≤ high) →
          low ≤ byte.toNat ∧ byte.toNat ≤ high := by
  have extent := plane_extent accepted
  have sides : 0 < p.extent.width ∧ 0 < p.extent.height := by
    have := mask.nonempty
    rw [← extent, Extent.IsEmpty] at this
    omega
  rw [← extent] at wide tall
  simp only [weights, if_neg nonempty, accepted]
  by_cases same : p.extent = target
  · refine ⟨p, if_pos same, same, ?_⟩
    intro x y hx hy
    rw [← same] at hx hy
    obtain ⟨byte, h⟩ := p.exists_texel? hx hy
    refine ⟨byte, h, ?_⟩
    intro low high bounds
    rw [Plane.footprint, if_pos same] at bounds
    simpa [h] using bounds
  · obtain ⟨w, hw, size, bytes⟩ := p.resample_mem nonempty sides.1 sides.2 wide tall
    refine ⟨w, by rw [if_neg same, hw], size, ?_⟩
    intro x y hx hy
    obtain ⟨byte, h, sample⟩ := bytes x y hx hy
    obtain ⟨u, hu, u0, u1⟩ := Plane.centre_mem hx (by simpa using target.width_lt)
    obtain ⟨v, hv, v0, v1⟩ := Plane.centre_mem hy (by simpa using target.height_lt)
    obtain ⟨byte', h', bound⟩ := p.sample?_mem sides.1 sides.2 wide tall hu u0 u1 hv v0 v1
    obtain rfl : byte = byte' := Option.some.inj (sample.symm.trans h')
    refine ⟨byte, h, fun low high bounds => bound low high ?_⟩
    rwa [Plane.footprint, if_neg same] at bounds

end Frame

end Tint
