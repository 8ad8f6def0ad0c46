import Tint.Proofs.Sampling.Reach

/-!
# Weights and exact interpolation

A weight at another size is made of the texels next to a place, in arithmetic that rounds nearly
every operation. It is compared with those texels, and with what exact arithmetic would give.

## The model

* `Plane.values` are the numbers of the texels at some places.
* `Plane.interpolation` is a plane at a place between its texels, and `exactPlace` the place of a
  pixel's centre, held between the first and the last texel. Both are of rationals and without
  rounding.
* `Plane.blended?` is the sum that a sample is rounded from.

## What is proved

* `Frame.weights_between`: a weight is between the least and the greatest of its texels.
* `abs_placeValue_sub_le`: at sides of at most 8192 the place of a pixel is off by hardly more
  than `2 ^ (-10)`, since a half is taken from it without error.
* `abs_interpolation_sub_le`: a plane changes by at most 255 from one texel to the next, and so a
  place that is off does little, also where it is off into another cell.
* `Frame.weights_accurate`: the sum is less than a half off the exact interpolation, and a plane
  resampled at its own size is itself.
-/

namespace Tint

open Binary

namespace Plane

variable {length target i : ℕ} {x y x' y' u v : ℚ} {a b : Single}

/-! ### The range of the texels -/

/-- The numbers of the texels at places of the plane. -/
def values (p : Plane) (places : List (ℕ × ℕ)) : List ℕ :=
  places.filterMap fun c => (p.texel? c.1 c.2).map UInt8.toNat

theorem length_values {p : Plane} {places : List (ℕ × ℕ)}
    (inside : ∀ c ∈ places, c.1 < p.extent.width ∧ c.2 < p.extent.height) :
    (p.values places).length = places.length := by
  induction places with
  | nil => rfl
  | cons c places ih =>
    obtain ⟨hx, hy⟩ := inside c List.mem_cons_self
    obtain ⟨byte, texel⟩ := p.exists_texel? hx hy
    have others := ih fun d mem => inside d (List.mem_cons_of_mem _ mem)
    rw [values] at others ⊢
    rw [List.filterMap_cons, texel]
    simp only [Option.map_some, List.length_cons, others]

theorem mem_values {p : Plane} {places : List (ℕ × ℕ)} {c : ℕ × ℕ} {byte : UInt8}
    (mem : c ∈ places) (texel : p.texel? c.1 c.2 = some byte) :
    byte.toNat ∈ p.values places := by
  rw [values, List.mem_filterMap]
  exact ⟨c, mem, by rw [texel]; rfl⟩

theorem texel?_mod_div (p : Plane) (h : i < p.extent.area) :
    p.texel? (i % p.extent.width) (i / p.extent.width) = p.bytes[i]? := by
  have width : 0 < p.extent.width := by
    refine Nat.pos_of_ne_zero fun zero => ?_
    rw [Extent.area, zero, Nat.zero_mul] at h
    exact Nat.not_lt_zero i h
  rw [texel?, if_pos ⟨Nat.mod_lt i width, Nat.div_lt_of_lt_mul h⟩, Nat.div_add_mod']

theorem texel?_mem {p : Plane} {x y : ℕ} {byte : UInt8} (texel : p.texel? x y = some byte) :
    byte ∈ p.bytes := by
  rw [texel?] at texel
  split at texel
  · exact Array.mem_of_getElem? texel
  · cases texel

/-- The texels that a weight is made from are on the plane. -/
theorem footprint_mem {p : Plane} {target : Extent} (sides : ¬ p.extent.IsEmpty)
    (reach : WithinReach p.extent target) {x y : ℕ} (hx : x < target.width)
    (hy : y < target.height) :
    ∀ c ∈ p.footprint target x y, c.1 < p.extent.width ∧ c.2 < p.extent.height := by
  rw [footprint]
  split
  · next same =>
    rintro c mem
    obtain rfl := List.mem_singleton.1 mem
    rw [same]
    exact ⟨hx, hy⟩
  · exact corners_withinReach sides reach hx hy

end Plane

namespace Frame

open Plane Extent

/-- **A weight is between the least and the greatest of its texels.** So texels of one value give
that value, and a plane of one value gives one of the same value. -/
theorem weights_between {mask : Frame} {channel : Channel} {p : Plane}
    (accepted : mask.plane channel = .ok p) (wide : mask.extent.width ≤ 2 ^ 24)
    (tall : mask.extent.height ≤ 2 ^ 24) {target : Extent} (nonempty : ¬ target.IsEmpty) :
    ∃ w, mask.weights channel target = .ok w ∧ w.extent = target ∧
      (∀ x y, x < target.width → y < target.height → ∃ (byte : UInt8) (low high : ℕ),
        w.texel? x y = some byte ∧
        (p.values (p.footprint target x y)).length = (p.footprint target x y).length ∧
        (p.values (p.footprint target x y)).min? = some low ∧
        (p.values (p.footprint target x y)).max? = some high ∧
        low ≤ byte.toNat ∧ byte.toNat ≤ high) ∧
      (∀ x y v, x < target.width → y < target.height →
        (∀ c ∈ p.footprint target x y, p.texel? c.1 c.2 = some v) → w.texel? x y = some v) ∧
      ∀ v, (∀ b ∈ p.bytes, b = v) → ∀ b ∈ w.bytes, b = v := by
  have extent := plane_extent accepted
  have sides : ¬ p.extent.IsEmpty := extent ▸ mask.nonempty
  obtain ⟨width, height⟩ := not_or.1 mask.nonempty
  have reach : WithinReach p.extent target := extent ▸
    ⟨not_overruns_of_length (Nat.pos_of_ne_zero width) wide,
      not_overruns_of_length (Nat.pos_of_ne_zero height) tall⟩
  obtain ⟨w, made, size, bytes⟩ := weights_mem accepted wide tall nonempty
  have same (x y : ℕ) (v : UInt8) (hx : x < target.width) (hy : y < target.height)
      (all : ∀ c ∈ p.footprint target x y, p.texel? c.1 c.2 = some v) : w.texel? x y = some v := by
    obtain ⟨byte, texel, bounds⟩ := bytes x y hx hy
    obtain ⟨low, high⟩ := bounds v.toNat v.toNat fun c mem => ⟨v, all c mem, le_rfl, le_rfl⟩
    rw [texel, UInt8.toNat_inj.1 (le_antisymm high low)]
  refine ⟨w, made, size, fun x y hx hy => ?_, same, fun v constant b mem => ?_⟩
  · obtain ⟨byte, texel, bounds⟩ := bytes x y hx hy
    have inside := footprint_mem sides reach hx hy
    have some_place : p.footprint target x y ≠ [] := by
      rw [footprint, corners]
      split <;> exact List.cons_ne_nil _ _
    have full := length_values inside
    have some_value : p.values (p.footprint target x y) ≠ [] := by
      rw [← List.length_pos_iff, full]
      exact List.length_pos_iff.2 some_place
    obtain ⟨low, least⟩ := Option.ne_none_iff_exists'.1 (List.min?_eq_none_iff.not.2 some_value)
    obtain ⟨high, greatest⟩ := Option.ne_none_iff_exists'.1 (List.max?_eq_none_iff.not.2 some_value)
    refine ⟨byte, low, high, texel, full, least, greatest, bounds low high fun c mem => ?_⟩
    obtain ⟨t, ht⟩ := p.exists_texel? (inside c mem).1 (inside c mem).2
    have listed := mem_values mem ht
    exact ⟨t, ht, (List.min?_eq_some_iff.1 least).2 _ listed,
      (List.max?_eq_some_iff.1 greatest).2 _ listed⟩
  · obtain ⟨i, hi, rfl⟩ := Array.mem_iff_getElem.1 mem
    have place : i < w.extent.area := w.size_eq ▸ hi
    have texel := w.texel?_mod_div place
    have width : 0 < w.extent.width := by
      rw [size]
      exact Nat.pos_of_ne_zero (not_or.1 nonempty).1
    have column : i % w.extent.width < target.width := size ▸ Nat.mod_lt i width
    have row : i / w.extent.width < target.height := size ▸ Nat.div_lt_of_lt_mul place
    rw [same _ _ v column row, Array.getElem?_eq_getElem hi] at texel
    · exact (Option.some.inj texel).symm
    · intro c mem
      obtain ⟨hx, hy⟩ := footprint_mem sides reach column row c mem
      obtain ⟨t, ht⟩ := p.exists_texel? hx hy
      rw [ht, constant t (texel?_mem ht)]

/-- A black texel beside a white one. -/
def rampMask : Frame := ⟨row 2, .gray, #[0, 255], by decide, rfl⟩

/-- The plane of the ramp. -/
def ramp : Plane := ⟨row 2, #[0, 255], rfl⟩

theorem rampMask_plane : rampMask.plane .red = .ok ramp := rfl

/-- A pixel between the two texels of the ramp has a weight between theirs. -/
theorem weights_between_rampMask : ∃ (w : Plane) (byte : UInt8) (low high : ℕ),
    rampMask.weights .red (row 4) = .ok w ∧ w.texel? 1 0 = some byte ∧
      (ramp.values (ramp.footprint (row 4) 1 0)).min? = some low ∧
      (ramp.values (ramp.footprint (row 4) 1 0)).max? = some high ∧
      low ≤ byte.toNat ∧ byte.toNat ≤ high := by
  have nonempty : ¬ (row 4).IsEmpty := by decide
  obtain ⟨w, made, -, bytes, -⟩ :=
    weights_between rampMask_plane (by decide) (by decide) nonempty
  obtain ⟨byte, low, high, texel, -, least, greatest, bounds⟩ := bytes 1 0 (by decide) (by decide)
  exact ⟨w, byte, low, high, made, texel, least, greatest, bounds⟩

end Frame

/-! ### Exact interpolation -/

theorem abs_mean_sub_le {s p q c B : ℚ} (s0 : 0 ≤ s) (s1 : s ≤ 1) (hp : |p - c| ≤ B)
    (hq : |q - c| ≤ B) : |(1 - s) * p + s * q - c| ≤ B := by
  have rest : 0 ≤ 1 - s := by linarith
  calc |(1 - s) * p + s * q - c| = |(1 - s) * (p - c) + s * (q - c)| := by ring_nf
    _ ≤ |(1 - s) * (p - c)| + |s * (q - c)| := abs_add_le _ _
    _ = (1 - s) * |p - c| + s * |q - c| := by
      rw [abs_mul, abs_mul, abs_of_nonneg rest, abs_of_nonneg s0]
    _ ≤ (1 - s) * B + s * B := by gcongr
    _ = B := by ring

/-- The function `g` of texels at a place on an axis: a mean of its values at the two texels next
to the place. -/
def along (length : ℕ) (g : ℕ → ℚ) (x : ℚ) : ℚ :=
  (1 - (x - ⌊x⌋₊)) * g ⌊x⌋₊ + (x - ⌊x⌋₊) * g ((⌊x⌋₊ + 1) ⊓ (length - 1))

section Along

variable {length : ℕ} {g h : ℕ → ℚ} {x y c B : ℚ}

theorem abs_along_sub_const_le (x0 : 0 ≤ x) (values : ∀ i, |g i - c| ≤ B) :
    |along length g x - c| ≤ B := by
  have below := Nat.floor_le x0
  have above := Nat.lt_floor_add_one x
  exact abs_mean_sub_le (by linarith) (by linarith) (values _) (values _)

theorem abs_along_sub_along_le (x0 : 0 ≤ x) (close : ∀ i, |g i - h i| ≤ B) :
    |along length g x - along length h x| ≤ B := by
  have difference : along length g x - along length h x =
      along length (fun i => g i - h i) x - 0 := by
    simp only [along]
    ring
  rw [difference]
  exact abs_along_sub_const_le x0 fun i => by simpa using close i

/-- **Between places a function changes as much as between its values at most**, in proportion to
the distance. -/
theorem abs_along_sub_le (values : ∀ i j, |g i - g j| ≤ B) (x0 : 0 ≤ x) (y0 : 0 ≤ y)
    (x1 : x ≤ (length - 1 : ℕ)) (y1 : y ≤ (length - 1 : ℕ)) :
    |along length g x - along length g y| ≤ B * |x - y| := by
  wlog order : x ≤ y generalizing x y
  · rw [abs_sub_comm, abs_sub_comm x]
    exact this y0 x0 y1 x1 (not_le.1 order).le
  have B0 : 0 ≤ B := (abs_nonneg _).trans (values 0 0)
  have belowX := Nat.floor_le x0
  have aboveX := Nat.lt_floor_add_one x
  have belowY := Nat.floor_le y0
  have aboveY := Nat.lt_floor_add_one y
  have floors : ⌊x⌋₊ ≤ ⌊y⌋₊ := Nat.floor_le_floor order
  rw [abs_sub_comm, abs_sub_comm x, abs_of_nonneg (sub_nonneg.2 order)]
  -- The places are in one cell, in neighbouring cells, or at least one texel apart.
  obtain same | next | apart : ⌊y⌋₊ = ⌊x⌋₊ ∨ ⌊y⌋₊ = ⌊x⌋₊ + 1 ∨ ⌊x⌋₊ + 2 ≤ ⌊y⌋₊ := by omega
  · have slope : along length g y - along length g x =
        (y - x) * (g ((⌊x⌋₊ + 1) ⊓ (length - 1)) - g ⌊x⌋₊) := by
      simp only [along, same]
      ring
    rw [slope, abs_mul, abs_of_nonneg (sub_nonneg.2 order), mul_comm]
    exact mul_le_mul_of_nonneg_right (values _ _) (sub_nonneg.2 order)
  · have inside : (⌊x⌋₊ + 1) ⊓ (length - 1) = ⌊x⌋₊ + 1 := by
      have := Nat.floor_le_of_le y1
      omega
    have floorY : (⌊y⌋₊ : ℚ) = ⌊x⌋₊ + 1 := by exact_mod_cast next
    have slopes : along length g y - along length g x =
        (y - ⌊y⌋₊) * (g ((⌊y⌋₊ + 1) ⊓ (length - 1)) - g (⌊x⌋₊ + 1)) +
          (1 - (x - ⌊x⌋₊)) * (g (⌊x⌋₊ + 1) - g ⌊x⌋₊) := by
      simp only [along, inside, next]
      ring
    have s0 : 0 ≤ 1 - (x - ⌊x⌋₊) := by linarith
    have t0 : 0 ≤ y - ⌊y⌋₊ := by linarith
    calc |along length g y - along length g x|
        ≤ |(y - ⌊y⌋₊) * (g ((⌊y⌋₊ + 1) ⊓ (length - 1)) - g (⌊x⌋₊ + 1))| +
            |(1 - (x - ⌊x⌋₊)) * (g (⌊x⌋₊ + 1) - g ⌊x⌋₊)| := by
          rw [slopes]
          exact abs_add_le _ _
      _ = (y - ⌊y⌋₊) * |g ((⌊y⌋₊ + 1) ⊓ (length - 1)) - g (⌊x⌋₊ + 1)| +
            (1 - (x - ⌊x⌋₊)) * |g (⌊x⌋₊ + 1) - g ⌊x⌋₊| := by
          rw [abs_mul, abs_mul, abs_of_nonneg s0, abs_of_nonneg t0]
      _ ≤ (y - ⌊y⌋₊) * B + (1 - (x - ⌊x⌋₊)) * B := by
          gcongr
          · exact values _ _
          · exact values _ _
      _ = B * (y - x) := by
          rw [floorY]
          ring
  · have far : 1 ≤ y - x := by
      have : (⌊x⌋₊ : ℚ) + 2 ≤ ⌊y⌋₊ := by exact_mod_cast apart
      linarith
    have near : |along length g y - along length g x| ≤ B := by
      refine abs_along_sub_const_le y0 fun i => ?_
      rw [abs_sub_comm]
      exact abs_along_sub_const_le x0 fun j => values j i
    calc |along length g y - along length g x| ≤ B * 1 := by rwa [mul_one]
      _ ≤ B * (y - x) := mul_le_mul_of_nonneg_left far B0

theorem along_natCast (length : ℕ) (g : ℕ → ℚ) (i : ℕ) : along length g i = g i := by
  simp [along]

end Along

namespace Plane

variable {length target i : ℕ} {x y x' y' u v : ℚ} {a b : Single}

/-- The number of a texel, zero off the plane. -/
def value (p : Plane) (x y : ℕ) : ℚ := ((p.texel? x y).getD 0).toNat

/-- The plane at a place between its texels, in exact arithmetic. -/
def interpolation (p : Plane) (x y : ℚ) : ℚ :=
  along p.extent.width (fun i => along p.extent.height (p.value i) y) x

/-- The place of the centre of pixel `i` of `target`, on an axis of `length` texels and in exact
arithmetic. -/
def exactPlace (length target i : ℕ) : ℚ :=
  ((length * (i + 1 / 2) / target - 1 / 2) ⊔ 0) ⊓ (length - 1 : ℕ)

theorem exactPlace_mem (length target i : ℕ) :
    0 ≤ exactPlace length target i ∧ exactPlace length target i ≤ (length - 1 : ℕ) :=
  ⟨le_inf le_sup_right (Nat.cast_nonneg _), inf_le_right⟩

theorem value_mem (p : Plane) (x y : ℕ) : 0 ≤ p.value x y ∧ p.value x y ≤ 255 := by
  have small := ((p.texel? x y).getD 0).toNat_lt
  refine ⟨Nat.cast_nonneg _, ?_⟩
  rw [value]
  exact_mod_cast (by omega : ((p.texel? x y).getD 0).toNat ≤ 255)

theorem abs_value_sub_le (p : Plane) (x y x' y' : ℕ) : |p.value x y - p.value x' y'| ≤ 255 := by
  obtain ⟨l, h⟩ := p.value_mem x y
  obtain ⟨l', h'⟩ := p.value_mem x' y'
  rw [abs_sub_le_iff]
  constructor <;> linarith

theorem interpolation_mem (p : Plane) (x0 : 0 ≤ x) (y0 : 0 ≤ y) :
    0 ≤ p.interpolation x y ∧ p.interpolation x y ≤ 255 := by
  have texels (i j : ℕ) : |p.value i j - 255 / 2| ≤ 255 / 2 := by
    obtain ⟨low, high⟩ := p.value_mem i j
    rw [abs_sub_le_iff]
    constructor <;> linarith
  have mean : |p.interpolation x y - 255 / 2| ≤ 255 / 2 :=
    abs_along_sub_const_le x0 fun i => abs_along_sub_const_le y0 (texels i)
  obtain ⟨high, low⟩ := abs_sub_le_iff.1 mean
  constructor <;> linarith

theorem interpolation_natCast (p : Plane) (i j : ℕ) : p.interpolation i j = p.value i j := by
  rw [interpolation, along_natCast, along_natCast]

/-- **A plane changes by at most 255 from one texel to the next**, in either direction and in
proportion to the distance. -/
theorem abs_interpolation_sub_le (p : Plane) (x0 : 0 ≤ x) (x1 : x ≤ (p.extent.width - 1 : ℕ))
    (x0' : 0 ≤ x') (x1' : x' ≤ (p.extent.width - 1 : ℕ)) (y0 : 0 ≤ y)
    (y1 : y ≤ (p.extent.height - 1 : ℕ)) (y0' : 0 ≤ y') (y1' : y' ≤ (p.extent.height - 1 : ℕ)) :
    |p.interpolation x y - p.interpolation x' y'| ≤ 255 * (|x - x'| + |y - y'|) := by
  have columns : |p.interpolation x y - p.interpolation x' y| ≤ 255 * |x - x'| := by
    refine abs_along_sub_le (fun i j => ?_) x0 x0' x1 x1'
    refine abs_along_sub_const_le y0 fun k => ?_
    rw [abs_sub_comm]
    exact abs_along_sub_const_le y0 fun l => p.abs_value_sub_le _ _ _ _
  have rows : |p.interpolation x' y - p.interpolation x' y'| ≤ 255 * |y - y'| :=
    abs_along_sub_along_le x0' fun i =>
      abs_along_sub_le (fun j k => p.abs_value_sub_le _ _ _ _) y0 y0' y1 y1'
  calc |p.interpolation x y - p.interpolation x' y'|
      = |(p.interpolation x y - p.interpolation x' y) +
          (p.interpolation x' y - p.interpolation x' y')| := by ring_nf
    _ ≤ |p.interpolation x y - p.interpolation x' y| +
          |p.interpolation x' y - p.interpolation x' y'| := abs_add_le _ _
    _ ≤ 255 * |x - x'| + 255 * |y - y'| := add_le_add columns rows
    _ = 255 * (|x - x'| + |y - y'|) := by ring

/-! ### Places of pixels -/

/-- On a side of at most 8192, the place of a pixel is off by little more than `2 ^ (-10)`. -/
theorem abs_placeValue_sub_le (long : length ≤ 8192) (few : target ≤ 8192) (h : i < target) :
    |placeValue length (centreValue target i) - exactPlace length target i| ≤
      1 / 2 ^ 10 + 1 / 2 ^ 30 := by
  have whole {n : ℕ} (hn : n ≤ 8192) : Format.single.near n = n :=
    Format.near_natCast (f := Format.single) (hn.trans (by decide))
  have size : (length : ℚ) ≤ 8192 := by exact_mod_cast long
  have positive : (0 : ℚ) < target := by exact_mod_cast Nat.zero_lt_of_lt h
  have next : (i : ℚ) + 1 ≤ target := by exact_mod_cast h
  have natural : (0 : ℚ) ≤ i := Nat.cast_nonneg i
  -- Only the quotient is rounded in a centre.
  have half : Format.single.near ((i : ℚ) + 1 / 2) = i + 1 / 2 := by
    have fits := Format.near_of_fits (f := Format.single) (m := 2 * i + 1) (e := 1)
      (by simp only [Format.single]; omega) (by decide)
    have cast : ((2 * i + 1 : ℕ) : ℚ) / 2 ^ 1 = i + 1 / 2 := by
      push_cast
      ring
    rwa [cast] at fits
  have centre : centreValue target i = Format.single.near ((i + 1 / 2) / target) := by
    rw [centreValue, whole (by omega), whole few, half]
  set c : ℚ := (i + 1 / 2) / target with hc
  have c0 : 0 ≤ c := by positivity
  have c1 : c ≤ 1 := by
    rw [hc, div_le_one positive]
    linarith
  have centre_error : |Format.single.near c - c| ≤ 1 / 2 ^ 24 + 1 / 2 ^ 150 :=
    abs_near_single_sub_le (by rwa [abs_of_nonneg c0])
  obtain ⟨n0, n1⟩ : 0 ≤ Format.single.near c ∧ Format.single.near c ≤ 1 := by
    have := Format.near_mem_Icc (f := Format.single) (a := 0) (b := 1) (by decide)
      (by simpa using c0) (by simpa using c1)
    simpa using this
  have product_error : |(length : ℚ) * Format.single.near c - length * c| ≤
      8192 * (1 / 2 ^ 24 + 1 / 2 ^ 150) := by
    rw [← mul_sub, abs_mul, Nat.abs_cast]
    exact mul_le_mul size centre_error (abs_nonneg _) (by norm_num)
  have product_size : |(length : ℚ) * c| ≤ 8192 := by
    rw [abs_of_nonneg (mul_nonneg (Nat.cast_nonneg _) c0)]
    exact (mul_le_of_le_one_right (Nat.cast_nonneg _) c1).trans size
  have rounded_error : |Format.single.near (length * Format.single.near c) - length * c| ≤
      1 / 2 ^ 10 + 1 / 2 ^ 30 :=
    within_near product_error product_size (by norm_num)
  have rounded_le : Format.single.near (length * Format.single.near c) ≤ length :=
    (Format.near_mem_Icc (f := Format.single) (a := 0) (b := length) (long.trans (by decide))
      (by simpa using mul_nonneg (Nat.cast_nonneg length) n0)
      (mul_le_of_le_one_right (Nat.cast_nonneg _) n1)).2
  -- Taking a half away is exact, or what is left is below the first texel.
  have shifted :
      Format.single.near (Format.single.near (length * Format.single.near c) - 1 / 2) ⊔ 0 =
        (Format.single.near (length * Format.single.near c) - 1 / 2) ⊔ 0 := by
    rcases le_or_gt (1 / 2) (Format.single.near (length * Format.single.near c)) with large | small
    · rw [Format.near_sub_half (by decide) large]
      refine (rounded_le.trans size).trans_lt ?_
      norm_num [Format.single]
    · have negative : Format.single.near (length * Format.single.near c) - 1 / 2 ≤ 0 := by linarith
      have below := Format.near_mono (f := Format.single) negative
      rw [Format.near_zero] at below
      rw [sup_eq_right.2 below, sup_eq_right.2 negative]
  have place : length * (i + 1 / 2) / target = length * c := by
    rw [hc]
    ring
  rw [placeValue, exactPlace, centre, whole long, whole ((Nat.sub_le _ _).trans long), shifted,
    place]
  calc _ ≤ |(Format.single.near (length * Format.single.near c) - 1 / 2) ⊔ 0 -
          (length * c - 1 / 2) ⊔ 0| := abs_inf_sub_inf_le_abs _ _ _
    _ ≤ |(Format.single.near (length * Format.single.near c) - 1 / 2) - (length * c - 1 / 2)| :=
        abs_sup_sub_sup_le_abs _ _ _
    _ = |Format.single.near (length * Format.single.near c) - length * c| := by ring_nf
    _ ≤ 1 / 2 ^ 10 + 1 / 2 ^ 30 := rounded_error

theorem exactPlace_self (h : i < length) : exactPlace length length i = i := by
  have positive : (length : ℚ) ≠ 0 := by exact_mod_cast (Nat.zero_lt_of_lt h).ne'
  have last : (i : ℚ) ≤ (length - 1 : ℕ) := by exact_mod_cast Nat.le_sub_one_of_lt h
  have shift : (length : ℚ) * (i + 1 / 2) / length - 1 / 2 = i := by
    field_simp
    ring
  rw [exactPlace, shift, sup_eq_left.2 (Nat.cast_nonneg i), inf_eq_left.2 last]

/-! ### Samples -/

/-- The weighted sum that the sample at `(u, v)` is rounded from. -/
def blended? (p : Plane) (u v : Single) : Option Single := do
  let x := pairAt p.extent.width (position p.extent.width u)
  let y := pairAt p.extent.height (position p.extent.height v)
  let p00 ← p.texel? x.low y.low
  let p01 ← p.texel? x.low y.high
  let p10 ← p.texel? x.high y.low
  let p11 ← p.texel? x.high y.high
  return mixture x y p00 p01 p10 p11

theorem sample?_eq (p : Plane) (parts : (isPart a && isPart b) = true) :
    p.sample? a b = (p.blended? a b).map fun sum => UInt8.ofNat (sum.roundAwayTo 255) := by
  simp only [sample?, blended?, parts, Bool.not_true, Bool.false_eq_true, if_false]
  cases p.texel? (pairAt p.extent.width (position p.extent.width a)).low
    (pairAt p.extent.height (position p.extent.height b)).low <;> simp

theorem interpolation_eq {p : Plane} {p00 p01 p10 p11 : UInt8}
    (h00 : p.texel? ⌊x⌋₊ ⌊y⌋₊ = some p00)
    (h01 : p.texel? ⌊x⌋₊ ((⌊y⌋₊ + 1) ⊓ (p.extent.height - 1)) = some p01)
    (h10 : p.texel? ((⌊x⌋₊ + 1) ⊓ (p.extent.width - 1)) ⌊y⌋₊ = some p10)
    (h11 : p.texel? ((⌊x⌋₊ + 1) ⊓ (p.extent.width - 1)) ((⌊y⌋₊ + 1) ⊓ (p.extent.height - 1)) =
      some p11) :
    p.interpolation x y = bilinear (x - ⌊x⌋₊) (y - ⌊y⌋₊) p00 p01 p10 p11 := by
  simp only [interpolation, along, value, h00, h01, h10, h11, Option.getD_some, bilinear]
  ring

/-- The sum of a sample is close to the exact interpolation at the place that is computed. -/
theorem blended?_within {p : Plane} (sides : ¬ p.extent.IsEmpty)
    (wide : p.extent.width ≤ 2 ^ 24) (tall : p.extent.height ≤ 2 ^ 24) (ha : a.Denotes u)
    (u0 : 0 ≤ u) (u1 : u ≤ 1) (hb : b.Denotes v) (v0 : 0 ≤ v) (v1 : v ≤ 1) :
    ∃ sum, p.blended? a b = some sum ∧
      Within sum (p.interpolation (placeValue p.extent.width u) (placeValue p.extent.height v))
        (1 / 2 ^ 11) := by
  obtain ⟨width, height⟩ := not_or.1 sides
  have hw : 0 < p.extent.width := Nat.pos_of_ne_zero width
  have hh : 0 < p.extent.height := Nat.pos_of_ne_zero height
  have x0 := placeValue_nonneg p.extent.width u
  have y0 := placeValue_nonneg p.extent.height v
  have x1 := placeValue_le wide u
  have y1 := placeValue_le tall v
  obtain ⟨xlow, xhigh, xl, xh⟩ :=
    pairAt_floor hw wide (denotes_position (by omega) ha u0 u1) x0 x1
  obtain ⟨ylow, yhigh, yl, yh⟩ :=
    pairAt_floor hh tall (denotes_position (by omega) hb v0 v1) y0 y1
  have floorX := Nat.floor_le_of_le x1
  have floorY := Nat.floor_le_of_le y1
  simp only [blended?, xlow, xhigh, ylow, yhigh]
  set x := placeValue p.extent.width u
  set y := placeValue p.extent.height v
  have left : ⌊x⌋₊ < p.extent.width := by omega
  have upper : ⌊y⌋₊ < p.extent.height := by omega
  have right : (⌊x⌋₊ + 1) ⊓ (p.extent.width - 1) < p.extent.width := by omega
  have lower : (⌊y⌋₊ + 1) ⊓ (p.extent.height - 1) < p.extent.height := by omega
  obtain ⟨p00, h00⟩ := p.exists_texel? left upper
  obtain ⟨p01, h01⟩ := p.exists_texel? left lower
  obtain ⟨p10, h10⟩ := p.exists_texel? right upper
  obtain ⟨p11, h11⟩ := p.exists_texel? right lower
  have belowX := Nat.floor_le x0
  have aboveX := Nat.lt_floor_add_one x
  have belowY := Nat.floor_le y0
  have aboveY := Nat.lt_floor_add_one y
  rw [interpolation_eq h00 h01 h10 h11]
  exact ⟨_, by simp [h00, h01, h10, h11],
    mixture_within p00 p01 p10 p11 (by linarith) (by linarith) (by linarith) (by linarith) xl xh
      yl yh⟩

/-- Neither side is longer than 8192. -/
def Moderate (e : Extent) : Prop := e.width ≤ 8192 ∧ e.height ≤ 8192

/-- **The sum of a sample is less than a half off the exact interpolation**, and so the sample is
less than one off it. -/
theorem sample?_accurate {p : Plane} {target : Extent} (sides : ¬ p.extent.IsEmpty)
    (moderate : Moderate p.extent) (few : Moderate target) {x y : ℕ} (hx : x < target.width)
    (hy : y < target.height) :
    ∃ sum v byte, p.blended? (centre target.width x) (centre target.height y) = some sum ∧
      sum.Denotes v ∧
      |v - p.interpolation (exactPlace p.extent.width target.width x)
        (exactPlace p.extent.height target.height y)| < 1 / 2 ∧
      byte = UInt8.ofNat (sum.roundAwayTo 255) ∧
      p.sample? (centre target.width x) (centre target.height y) = some byte ∧
      |(byte.toNat : ℚ) - p.interpolation (exactPlace p.extent.width target.width x)
        (exactPlace p.extent.height target.height y)| < 1 := by
  have small {n : ℕ} (h : n ≤ 8192) : n ≤ 2 ^ 24 := h.trans (by decide)
  obtain ⟨hcolumn, u0, u1⟩ := denotes_centre hx (by simpa using target.width_lt)
  obtain ⟨hrow, v0, v1⟩ := denotes_centre hy (by simpa using target.height_lt)
  obtain ⟨sum, made, within⟩ := blended?_within sides (small moderate.1) (small moderate.2)
    hcolumn u0 u1 hrow v0 v1
  have columns := abs_placeValue_sub_le moderate.1 few.1 hx
  have rows := abs_placeValue_sub_le moderate.2 few.2 hy
  obtain ⟨ex0, ex1⟩ := exactPlace_mem p.extent.width target.width x
  obtain ⟨ey0, ey1⟩ := exactPlace_mem p.extent.height target.height y
  have places := p.abs_interpolation_sub_le
    (placeValue_nonneg p.extent.width (centreValue target.width x))
    (placeValue_le (small moderate.1) _) ex0 ex1
    (placeValue_nonneg p.extent.height (centreValue target.height y))
    (placeValue_le (small moderate.2) _) ey0 ey1
  set ideal := p.interpolation (exactPlace p.extent.width target.width x)
    (exactPlace p.extent.height target.height y)
  set computed := p.interpolation (placeValue p.extent.width (centreValue target.width x))
    (placeValue p.extent.height (centreValue target.height y))
  have error : Within sum ideal 0.4986 := by
    obtain ⟨v, hv, off⟩ := within
    refine ⟨v, hv, ?_⟩
    calc |v - ideal| = |(v - computed) + (computed - ideal)| := by ring_nf
      _ ≤ |v - computed| + |computed - ideal| := abs_add_le _ _
      _ ≤ 1 / 2 ^ 11 + 255 * ((1 / 2 ^ 10 + 1 / 2 ^ 30) + (1 / 2 ^ 10 + 1 / 2 ^ 30)) := by
        refine add_le_add off (places.trans ?_)
        gcongr
      _ ≤ 0.4986 := by norm_num
  obtain ⟨nonneg, le_top⟩ : 0 ≤ ideal ∧ ideal ≤ (255 : ℕ) := by
    exact_mod_cast p.interpolation_mem ex0 ey0
  have rounded := error.abs_toNatBy_sub_le isNearest_divHalfUp nonneg le_top (by norm_num)
  obtain ⟨v, hv, off⟩ := error
  have parts : (isPart (centre target.width x) && isPart (centre target.height y)) = true := by
    rw [isPart_centre hx (by simpa using target.width_lt),
      isPart_centre hy (by simpa using target.height_lt), Bool.and_self]
  have limit : sum.roundAwayTo 255 ≤ 255 := toNatBy_le _ _ _
  refine ⟨sum, v, _, made, hv, off.trans_lt (by norm_num), rfl, ?_, ?_⟩
  · rw [p.sample?_eq parts, made, Option.map_some]
  · rw [UInt8.toNat_ofNat', Nat.mod_eq_of_lt (by omega)]
    exact rounded.trans_lt (by norm_num)

/-- Planes with the same texels are the same. -/
theorem eq_of_texels {p q : Plane} (size : p.extent = q.extent)
    (same : ∀ x y, x < p.extent.width → y < p.extent.height → p.texel? x y = q.texel? x y) :
    p = q := by
  obtain ⟨extent, bytes, hp⟩ := p
  obtain ⟨_, bytes', hq⟩ := q
  obtain rfl := size
  congr 1
  refine Array.ext (hp.trans hq.symm) fun i hi hi' => ?_
  have place : i < extent.area := hp ▸ hi
  have width : 0 < extent.width := by
    refine Nat.pos_of_ne_zero fun zero => ?_
    rw [Extent.area, zero, Nat.zero_mul] at place
    exact Nat.not_lt_zero i place
  have texel := same _ _ (Nat.mod_lt i width) (Nat.div_lt_of_lt_mul place)
  rw [texel?_mod_div ⟨extent, bytes, hp⟩ place, texel?_mod_div ⟨extent, bytes', hq⟩ place,
    Array.getElem?_eq_getElem hi, Array.getElem?_eq_getElem hi'] at texel
  exact Option.some.inj texel

theorem eq_texel_of_close {p : Plane} {i j : ℕ} {byte t : UInt8} (texel : p.texel? i j = some t)
    (close : |(byte.toNat : ℚ) - p.value i j| < 1) : byte = t := by
  have number : p.value i j = t.toNat := by rw [value, texel, Option.getD_some]
  rw [number] at close
  have apart : |(byte.toNat : ℤ) - t.toNat| < 1 := by exact_mod_cast close
  have := Int.abs_lt_one_iff.1 apart
  exact UInt8.toNat_inj.1 (by omega)

/-- **A plane resampled at its own size is itself.** -/
theorem resample_self {p : Plane} (sides : ¬ p.extent.IsEmpty) (moderate : Moderate p.extent) :
    p.resample p.extent = .ok p := by
  have accurate {x y : ℕ} (hx : x < p.extent.width) (hy : y < p.extent.height) :=
    sample?_accurate sides moderate moderate hx hy
  obtain ⟨w, made, size, bytes⟩ := p.resample_of_samples sides fun x y hx hy => by
    obtain ⟨-, -, byte, -, -, -, -, sample, -⟩ := accurate hx hy
    exact ⟨byte, sample⟩
  rw [made]
  congr 1
  refine eq_of_texels size fun x y hx hy => ?_
  rw [size] at hx hy
  obtain ⟨byte, texel, sample⟩ := bytes x y hx hy
  obtain ⟨-, -, byte', -, -, -, -, sample', close⟩ := accurate hx hy
  obtain rfl : byte = byte' := Option.some.inj (sample.symm.trans sample')
  obtain ⟨t, ht⟩ := p.exists_texel? hx hy
  rw [exactPlace_self hx, exactPlace_self hy, interpolation_natCast] at close
  rw [texel, ht, eq_texel_of_close ht close]

end Plane

namespace Frame

open Plane Extent

/-- **Weights are less than one off exact interpolation.** The sums that they are rounded from are
less than a half off it. At the size of the mask resampling gives back its plane, so that taking
the plane as it is agrees with resampling. -/
theorem weights_accurate {mask : Frame} {channel : Channel} {p : Plane}
    (accepted : mask.plane channel = .ok p) (moderate : Moderate mask.extent) {target : Extent}
    (nonempty : ¬ target.IsEmpty) (few : Moderate target) :
    (∀ x y, x < target.width → y < target.height → ∃ sum v,
      p.blended? (centre target.width x) (centre target.height y) = some sum ∧
      p.sample? (centre target.width x) (centre target.height y) =
        some (UInt8.ofNat (sum.roundAwayTo 255)) ∧
      sum.Denotes v ∧
      |v - p.interpolation (exactPlace mask.extent.width target.width x)
        (exactPlace mask.extent.height target.height y)| < 1 / 2) ∧
    (∃ w, mask.weights channel target = .ok w ∧ p.resample target = .ok w ∧ w.extent = target ∧
      ∀ x y, x < target.width → y < target.height → ∃ byte, w.texel? x y = some byte ∧
        |(byte.toNat : ℚ) - p.interpolation (exactPlace mask.extent.width target.width x)
          (exactPlace mask.extent.height target.height y)| < 1) ∧
    (mask.extent = target → p.resample target = .ok p ∧ mask.weights channel target = .ok p) := by
  have extent := plane_extent accepted
  have sides : ¬ p.extent.IsEmpty := extent ▸ mask.nonempty
  have accurate {x y : ℕ} (hx : x < target.width) (hy : y < target.height) :=
    sample?_accurate sides (extent ▸ moderate) few hx hy
  have itself (same : mask.extent = target) :
      p.resample target = .ok p ∧ mask.weights channel target = .ok p := by
    refine ⟨?_, weights_same accepted nonempty same⟩
    rw [← same, ← extent]
    exact resample_self sides (extent ▸ moderate)
  refine ⟨fun x y hx hy => ?_, ?_, itself⟩
  · obtain ⟨sum, v, byte, made, denotes, close, rfl, sample, -⟩ := accurate hx hy
    exact ⟨sum, v, made, sample, denotes, by rwa [extent] at close⟩
  · obtain ⟨w, made, size, bytes⟩ := p.resample_of_samples nonempty fun x y hx hy => by
      obtain ⟨-, -, byte, -, -, -, -, sample, -⟩ := accurate hx hy
      exact ⟨byte, sample⟩
    have either : mask.weights channel target = p.resample target := by
      by_cases same : mask.extent = target
      · rw [(itself same).1, (itself same).2]
      · exact weights_resample accepted nonempty same
    refine ⟨w, either.trans made, made, size, fun x y hx hy => ?_⟩
    obtain ⟨byte, texel, sample⟩ := bytes x y hx hy
    obtain ⟨-, -, byte', -, -, -, -, sample', close⟩ := accurate hx hy
    obtain rfl : byte = byte' := Option.some.inj (sample.symm.trans sample')
    exact ⟨byte, texel, by rwa [extent] at close⟩

/-- The second of four pixels of the ramp is less than one off a quarter of the way from black to
white. -/
theorem weights_accurate_rampMask : ∃ w byte,
    rampMask.weights .red (row 4) = .ok w ∧ w.texel? 1 0 = some byte ∧
      |(byte.toNat : ℚ) - 255 / 4| < 1 := by
  have nonempty : ¬ (row 4).IsEmpty := by decide
  obtain ⟨-, ⟨w, made, -, -, bytes⟩, -⟩ :=
    weights_accurate rampMask_plane ⟨by decide, by decide⟩ nonempty ⟨by decide, by decide⟩
  obtain ⟨byte, texel, close⟩ := bytes 1 0 (by decide) (by decide)
  refine ⟨w, byte, made, texel, ?_⟩
  have column : exactPlace 2 4 1 = 1 / 4 := by norm_num [exactPlace]
  have row : exactPlace 1 1 0 = (0 : ℕ) := by norm_num [exactPlace]
  have quarter : ramp.interpolation (1 / 4) (0 : ℕ) = 255 / 4 := by
    have black : ramp.value 0 0 = 0 := rfl
    have white : ramp.value 1 0 = 255 := rfl
    have floor : ⌊(1 / 4 : ℚ)⌋₊ = 0 := by norm_num
    have right : (0 + 1) ⊓ (ramp.extent.width - 1) = 1 := rfl
    simp only [interpolation, along_natCast]
    rw [along, floor, right, black, white]
    norm_num
  change |(byte.toNat : ℚ) - ramp.interpolation (exactPlace 2 4 1) (exactPlace 1 1 0)| < 1 at close
  rwa [column, row, quarter] at close

end Frame

end Tint
