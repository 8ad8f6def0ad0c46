import Tint.Proofs.Sampling

/-!
# How far sampling reaches

Sampling holds a place between the first texel and the last one. Up to `2 ^ 24` texels on an
axis it succeeds. The number of the last of more texels may be rounded up to that of one which
is not there, and a place is then held by the wrong bound. This shows where the centre of the
last pixel is rounded to one, at a little more than `2 ^ 23` pixels, and nowhere else.

## The model

* `Plane.Overruns length target` says of an axis of `length` texels at `target` pixels that
  both roundings go that way. It is decided by computation.
* `Plane.WithinReach source target` says that neither axis is overrun.

## What is proved

* `overruns_iff`: what this means for the values that are computed.
* `not_overruns_of_length`, `not_overruns_of_target`: an axis of at most `2 ^ 24` texels, or
  one at no more than `2 ^ 23` pixels, is not overrun.
* `low_lt`, `le_low`: on an axis that is not overrun every pixel reads texels that are there;
  on another one the last pixel does not.
* `Frame.weights_reach`: so the weights of a mask are made, or the program crashes, by whether
  the sides are within reach.
-/

namespace Tint

open Binary

namespace Plane

variable {length target i : ℕ} {x u : ℚ} {a b : Single}

/-- Rounding takes the last of `length` texels past the end, and the centre of the last of
`target` pixels to one. -/
def Overruns (length target : ℕ) : Prop :=
  length ≤ (ofNat (length - 1) : Single).floorTo 4294967295 ∧
    (ofNat 1 : Single).le (centre target (target - 1)) = true

instance (length target : ℕ) : Decidable (Overruns length target) :=
  inferInstanceAs (Decidable (_ ∧ _))

/-- Neither side of a plane is overrun at the size `target`. -/
def WithinReach (source target : Extent) : Prop :=
  ¬ Overruns source.width target.width ∧ ¬ Overruns source.height target.height

instance (source target : Extent) : Decidable (WithinReach source target) :=
  inferInstanceAs (Decidable (_ ∧ _))

/-! ### Values that are computed -/

theorem low_lt_iff (ha : a.Denotes x) (nonneg : 0 ≤ x) (bound : length < 2 ^ 32) :
    (pairAt length a).low < length ↔ x < length := by
  have low : (pairAt length a).low = ⌊x⌋₊ ⊓ 4294967295 := ha.floorTo_eq nonneg 4294967295
  rw [low, inf_lt_iff, ← Nat.floor_lt nonneg]
  omega

theorem high_lt (pos : 0 < length) (place : Single) : (pairAt length place).high < length :=
  (Nat.min_le_right _ _).trans_lt (Nat.sub_lt pos one_pos)

theorem centreValue_mono {j : ℕ} (h : i ≤ j) : centreValue length i ≤ centreValue length j := by
  have whole : Format.single.near i ≤ Format.single.near j :=
    Format.near_mono (by exact_mod_cast h)
  have nonneg : 0 ≤ Format.single.near length := Format.near_nonneg (Nat.cast_nonneg _)
  refine Format.near_mono (div_le_div_of_nonneg_right (Format.near_mono ?_) nonneg)
  linarith

/-- A place of less than one is before the end, however long the axis is. -/
theorem placeValue_lt (pos : 0 < length) (nonneg : 0 ≤ u) (below : u ≤ 1 - 1 / 2 ^ 24) :
    placeValue length u < length := by
  have one_le := one_le_near pos
  have product_nonneg : 0 ≤ Format.single.near length * u := mul_nonneg (by linarith) nonneg
  have product_le : Format.single.near length * u ≤
      Format.single.near length * (1 - 1 / 2 ^ 24) := by gcongr
  -- The product is so far below the rounded length that rounding it does not lead back there,
  -- and between the length and its rounding there is no number of the format.
  have before : Format.single.near (Format.single.near length * u) < length := by
    by_contra reached
    have back := Format.near_mono (f := Format.single) (not_lt.1 reached)
    rw [Format.near_near] at back
    have error := abs_sub_le_iff.1 (abs_near_single_sub_le (abs_of_nonneg product_nonneg).le)
    linarith [error.1]
  have shifted : Format.single.near (Format.single.near (Format.single.near length * u) - 1 / 2) ≤
      Format.single.near (Format.single.near length * u) := by
    rw [← Format.near_near (f := Format.single) (Format.single.near length * u)]
    exact Format.near_mono (by rw [Format.near_near]; linarith)
  rw [placeValue]
  refine (inf_le_left.trans (sup_le_sup_right shifted 0)).trans_lt (sup_lt_iff.2 ⟨before, ?_⟩)
  exact_mod_cast pos

/-- The place of one is that of the last texel as it is rounded, if this is behind the end. -/
theorem placeValue_one (pos : 0 < length)
    (behind : (length : ℚ) ≤ Format.single.near (length - 1 : ℕ)) :
    placeValue length 1 = Format.single.near (length - 1 : ℕ) := by
  have last : ((length - 1 : ℕ) : ℚ) = length - 1 := Nat.cast_pred pos
  have rounded : Format.single.near (length - 1 : ℕ) ≤ Format.single.near length :=
    Format.near_mono (by rw [last]; linarith)
  have held : Format.single.near (length - 1 : ℕ) ≤
      Format.single.near (Format.single.near length - 1 / 2) :=
    Format.near_mono (by rw [last]; linarith)
  rw [placeValue, mul_one, Format.near_near]
  exact inf_eq_right.2 (held.trans le_sup_left)

/-! ### Axes that are overrun -/

/-- An axis is overrun when the last texel is rounded to one that is not there, and the centre
of the last pixel to one. -/
theorem overruns_iff (bound : length < 2 ^ 32) (pos : 0 < target) (small : target < 2 ^ 32) :
    Overruns length target ↔ (length : ℚ) ≤ Format.single.near (length - 1 : ℕ) ∧
      centreValue target (target - 1) = 1 := by
  obtain ⟨hlast, nonneg, -⟩ := ofNat_mem (show length - 1 < 2 ^ 32 by omega)
  obtain ⟨hcentre, -, le_one⟩ := denotes_centre (Nat.sub_lt pos one_pos) small
  have held : length ≤ ⌊Format.single.near (length - 1 : ℕ)⌋₊ ⊓ 4294967295 ↔
      length ≤ ⌊Format.single.near (length - 1 : ℕ)⌋₊ := by
    rw [le_inf_iff]
    exact and_iff_left (by omega)
  rw [Overruns, hlast.floorTo_eq nonneg, held, Nat.le_floor_iff nonneg,
    denotes_one.le_iff hcentre, le_antisymm_iff (a := centreValue target (target - 1)),
    and_iff_right le_one]

/-- An axis of at most `2 ^ 24` texels is not overrun. -/
theorem not_overruns_of_length (pos : 0 < length) (bound : length ≤ 2 ^ 24) :
    ¬ Overruns length target := by
  have last : (ofNat (length - 1) : Single).floorTo 4294967295 = (length - 1) ⊓ 4294967295 := by
    rw [(denotes_ofNat_single (by omega)).floorTo_eq (Nat.cast_nonneg _), Nat.floor_natCast]
  rintro ⟨behind, -⟩
  rw [last] at behind
  omega

/-- An axis at no more than `2 ^ 23` pixels is not overrun. -/
theorem not_overruns_of_target (length : ℕ) (pos : 0 < target) (bound : target ≤ 2 ^ 23) :
    ¬ Overruns length target := by
  -- The last centre is half a pixel below one, which is at least a unit of the last place.
  have whole : Format.single.near target = target :=
    Format.near_natCast (f := Format.single) (bound.trans (by decide))
  have last : Format.single.near (target - 1 : ℕ) = target - 1 := by
    rw [Format.near_natCast (f := Format.single) ((Nat.sub_le _ _).trans (bound.trans (by decide))),
      Nat.cast_pred pos]
  have half : Format.single.near ((target : ℚ) - 1 + 1 / 2) = target - 1 / 2 := by
    have fits := Format.near_of_fits (f := Format.single) (m := 2 * target - 1) (e := 1)
      (by simp only [Format.single]; omega) (by decide)
    have cast : ((2 * target - 1 : ℕ) : ℚ) / 2 ^ 1 = target - 1 / 2 := by
      rw [Nat.cast_sub (by omega)]
      push_cast
      ring
    rw [cast] at fits
    rw [← fits]
    congr 1
    ring
  have unit : Format.single.near (1 - 1 / 2 ^ 24) = 1 - 1 / 2 ^ 24 := by
    have fits := Format.near_of_fits (f := Format.single) (m := 2 ^ 24 - 1) (e := 24) (by decide)
      (by decide)
    norm_num at fits ⊢
    exact fits
  have size : (target : ℚ) ≤ 2 ^ 23 := by exact_mod_cast bound
  have positive : (0 : ℚ) < target := by exact_mod_cast pos
  have exact_le : ((target : ℚ) - 1 / 2) / target ≤ 1 - 1 / 2 ^ 24 := by
    rw [div_le_iff₀ positive]
    linarith
  have small : target < 2 ^ 32 := by omega
  obtain ⟨hcentre, -, -⟩ := denotes_centre (Nat.sub_lt pos one_pos) small
  rintro ⟨-, reached⟩
  rw [denotes_one.le_iff hcentre, centreValue, last, half, whole] at reached
  have rounded := Format.near_mono (f := Format.single) exact_le
  rw [unit] at rounded
  linarith

theorem withinReach_of_le {source target : Extent} (texels : ¬ source.IsEmpty)
    (pixels : ¬ target.IsEmpty) (columns : source.width ≤ 2 ^ 24 ∨ target.width ≤ 2 ^ 23)
    (rows : source.height ≤ 2 ^ 24 ∨ target.height ≤ 2 ^ 23) : WithinReach source target := by
  obtain ⟨width, height⟩ := not_or.1 texels
  obtain ⟨wide, tall⟩ := not_or.1 pixels
  refine ⟨?_, ?_⟩
  · rcases columns with few | few
    · exact not_overruns_of_length (Nat.pos_of_ne_zero width) few
    · exact not_overruns_of_target _ (Nat.pos_of_ne_zero wide) few
  · rcases rows with few | few
    · exact not_overruns_of_length (Nat.pos_of_ne_zero height) few
    · exact not_overruns_of_target _ (Nat.pos_of_ne_zero tall) few

/-- On an axis that is not overrun, every pixel reads a texel that is there. -/
theorem low_lt (pos : 0 < length) (bound : length < 2 ^ 32) (small : target < 2 ^ 32)
    (h : i < target) (held : ¬ Overruns length target) :
    (pairAt length (position length (centre target i))).low < length := by
  obtain ⟨hcentre, c0, c1⟩ := denotes_centre h small
  have place := denotes_position bound hcentre c0 c1
  rw [low_lt_iff place (placeValue_nonneg _ _) bound]
  rcases le_or_gt (length : ℚ) (Format.single.near (length - 1 : ℕ)) with behind | before
  · -- The last texel is rounded away, so that the centre of the last pixel is less than one, and
    -- the others are before it.
    have last : centreValue target (target - 1) < 1 := by
      obtain ⟨-, -, le_one⟩ := denotes_centre (Nat.sub_lt (Nat.zero_lt_of_lt h) one_pos) small
      refine lt_of_le_of_ne le_one fun one => held ?_
      exact (overruns_iff bound (Nat.zero_lt_of_lt h) small).2 ⟨behind, one⟩
    have inOrder : centreValue target i ≤ centreValue target (target - 1) :=
      centreValue_mono (by omega)
    exact placeValue_lt pos c0 (inOrder.trans (Format.near_le_of_lt_one (by decide) last))
  · exact inf_le_right.trans_lt before

/-- On an axis that is overrun, the last pixel reads a texel behind the end. -/
theorem le_low (pos : 0 < length) (bound : length < 2 ^ 32) (some : 0 < target)
    (small : target < 2 ^ 32) (outside : Overruns length target) :
    length ≤ (pairAt length (position length (centre target (target - 1)))).low := by
  obtain ⟨behind, one⟩ := (overruns_iff bound some small).1 outside
  obtain ⟨hcentre, c0, c1⟩ := denotes_centre (Nat.sub_lt some one_pos) small
  have place := denotes_position bound hcentre c0 c1
  rw [← not_lt, low_lt_iff place (placeValue_nonneg _ _) bound, one, placeValue_one pos behind,
    not_lt]
  exact behind

/-! ### Samples -/

theorem isPart_centre (h : i < target) (small : target < 2 ^ 32) :
    isPart (centre target i) = true := by
  obtain ⟨hcentre, c0, c1⟩ := denotes_centre h small
  simp [isPart, denotes_zero.le_iff hcentre, hcentre.le_iff denotes_one, c0, c1]

theorem corners_mem {p : Plane} (hw : 0 < p.extent.width) (hh : 0 < p.extent.height)
    (column : (pairAt p.extent.width (position p.extent.width a)).low < p.extent.width)
    (row : (pairAt p.extent.height (position p.extent.height b)).low < p.extent.height) :
    ∀ c ∈ p.corners a b, c.1 < p.extent.width ∧ c.2 < p.extent.height := by
  simp only [corners, List.forall_mem_cons]
  exact ⟨⟨column, row⟩, ⟨column, high_lt hh _⟩, ⟨high_lt hw _, row⟩,
    ⟨high_lt hw _, high_lt hh _⟩, List.forall_mem_nil _⟩

theorem exists_sample? {p : Plane} (parts : (isPart a && isPart b) = true)
    (inside : ∀ c ∈ p.corners a b, c.1 < p.extent.width ∧ c.2 < p.extent.height) :
    ∃ byte, p.sample? a b = some byte := by
  simp only [corners, List.forall_mem_cons] at inside
  obtain ⟨⟨x0, y0⟩, ⟨-, y1⟩, ⟨x1, -⟩, -, -⟩ := inside
  obtain ⟨p00, h00⟩ := p.exists_texel? x0 y0
  obtain ⟨p01, h01⟩ := p.exists_texel? x0 y1
  obtain ⟨p10, h10⟩ := p.exists_texel? x1 y0
  obtain ⟨p11, h11⟩ := p.exists_texel? x1 y1
  exact ⟨_, by simp [sample?, parts, h00, h01, h10, h11]; rfl⟩

theorem sample?_eq_none {p : Plane}
    (off : p.extent.width ≤ (pairAt p.extent.width (position p.extent.width a)).low ∨
      p.extent.height ≤ (pairAt p.extent.height (position p.extent.height b)).low) :
    p.sample? a b = none := by
  have missing : p.texel? (pairAt p.extent.width (position p.extent.width a)).low
      (pairAt p.extent.height (position p.extent.height b)).low = none := by
    rw [texel?, if_neg (by omega)]
  simp only [sample?, missing]
  split <;> rfl

/-! ### Planes at another size -/

theorem corners_withinReach {p : Plane} {target : Extent} (sides : ¬ p.extent.IsEmpty)
    (reach : WithinReach p.extent target) {x y : ℕ} (hx : x < target.width)
    (hy : y < target.height) :
    ∀ c ∈ p.corners (centre target.width x) (centre target.height y),
      c.1 < p.extent.width ∧ c.2 < p.extent.height := by
  obtain ⟨width, height⟩ := not_or.1 sides
  have hw : 0 < p.extent.width := Nat.pos_of_ne_zero width
  have hh : 0 < p.extent.height := Nat.pos_of_ne_zero height
  refine corners_mem hw hh ?_ ?_
  · exact low_lt hw (by simpa using p.extent.width_lt) (by simpa using target.width_lt) hx reach.1
  · exact low_lt hh (by simpa using p.extent.height_lt) (by simpa using target.height_lt) hy reach.2

/-- Out of reach, the last pixel reads a texel that is off the plane. -/
theorem last_off {p : Plane} {target : Extent} (sides : ¬ p.extent.IsEmpty)
    (nonempty : ¬ target.IsEmpty) (outside : ¬ WithinReach p.extent target) :
    p.extent.width ≤ (pairAt p.extent.width
        (position p.extent.width (centre target.width (target.width - 1)))).low ∨
      p.extent.height ≤ (pairAt p.extent.height
        (position p.extent.height (centre target.height (target.height - 1)))).low := by
  obtain ⟨width, height⟩ := not_or.1 sides
  obtain ⟨wide, tall⟩ := not_or.1 nonempty
  rw [WithinReach, not_and_or, not_not, not_not] at outside
  refine outside.imp (fun outside => ?_) fun outside => ?_
  · exact le_low (Nat.pos_of_ne_zero width) (by simpa using p.extent.width_lt)
      (Nat.pos_of_ne_zero wide) (by simpa using target.width_lt) outside
  · exact le_low (Nat.pos_of_ne_zero height) (by simpa using p.extent.height_lt)
      (Nat.pos_of_ne_zero tall) (by simpa using target.height_lt) outside

theorem resample_withinReach {p : Plane} {target : Extent} (sides : ¬ p.extent.IsEmpty)
    (nonempty : ¬ target.IsEmpty) (reach : WithinReach p.extent target) :
    ∃ w, p.resample target = .ok w ∧ w.extent = target := by
  have there (x y : ℕ) (hx : x < target.width) (hy : y < target.height) :
      ∃ byte, p.sample? (centre target.width x) (centre target.height y) = some byte := by
    refine exists_sample? ?_ (corners_withinReach sides reach hx hy)
    rw [isPart_centre hx (by simpa using target.width_lt),
      isPart_centre hy (by simpa using target.height_lt), Bool.and_self]
  obtain ⟨w, made, size, -⟩ := p.resample_of_samples nonempty there
  exact ⟨w, made, size⟩

/-- Out of reach, the program crashes. -/
theorem resample_crash {p : Plane} {target : Extent} (sides : ¬ p.extent.IsEmpty)
    (nonempty : ¬ target.IsEmpty) (outside : ¬ WithinReach p.extent target) :
    p.resample target = .error .crash := by
  obtain ⟨wide, tall⟩ := not_or.1 nonempty
  have parts : gap (centre target.width (target.width - 1))
      (centre target.height (target.height - 1)) = .crash := by
    rw [gap, isPart_centre (Nat.sub_lt (Nat.pos_of_ne_zero wide) one_pos)
        (by simpa using target.width_lt),
      isPart_centre (Nat.sub_lt (Nat.pos_of_ne_zero tall) one_pos)
        (by simpa using target.height_lt)]
    rfl
  simp only [resample, sample?_eq_none (last_off sides nonempty outside), Option.isNone_none,
    if_true, parts]

end Plane

theorem one_lt_bound : 1 < 1 <<< 32 := by decide

/-- A row of pixels. -/
def Extent.row (length : ℕ) (short : length ≤ 2 ^ 25 := by decide) : Extent where
  width := length
  height := 1
  width_lt := short.trans_lt (by decide)
  height_lt := one_lt_bound

namespace Frame

open Plane Extent

theorem weights_resample {mask : Frame} {channel : Channel} {p : Plane}
    (accepted : mask.plane channel = .ok p) {target : Extent} (nonempty : ¬ target.IsEmpty)
    (other : mask.extent ≠ target) : mask.weights channel target = p.resample target := by
  simp only [weights, if_neg nonempty, accepted]
  rw [if_neg (by rwa [plane_extent accepted])]

/-- A mask of the wanted size is used as it is. -/
theorem weights_same {mask : Frame} {channel : Channel} {p : Plane}
    (accepted : mask.plane channel = .ok p) {target : Extent} (nonempty : ¬ target.IsEmpty)
    (same : mask.extent = target) : mask.weights channel target = .ok p := by
  simp only [weights, if_neg nonempty, accepted]
  rw [if_pos (by rwa [plane_extent accepted])]

/-- Of a mask that is accepted, there are weights unless the program crashes. -/
theorem weights_cases {mask : Frame} {channel : Channel} {p : Plane}
    (accepted : mask.plane channel = .ok p) {target : Extent} (nonempty : ¬ target.IsEmpty) :
    (mask.extent = target ∨ WithinReach mask.extent target) ∧
        (∃ w, mask.weights channel target = .ok w ∧ w.extent = target) ∨
      ¬ (mask.extent = target ∨ WithinReach mask.extent target) ∧
        mask.weights channel target = .error .crash := by
  have extent := plane_extent accepted
  have sides : ¬ p.extent.IsEmpty := extent ▸ mask.nonempty
  by_cases same : mask.extent = target
  · exact .inl ⟨.inl same, p, weights_same accepted nonempty same, extent.trans same⟩
  · rw [weights_resample accepted nonempty same]
    by_cases reach : WithinReach mask.extent target
    · exact .inl ⟨.inr reach, resample_withinReach sides nonempty (extent ▸ reach)⟩
    · refine .inr ⟨not_or.2 ⟨same, reach⟩, ?_⟩
      exact resample_crash sides nonempty (extent ▸ reach)

/-- An error on the way to weights is one of the mask's channel. -/
theorem weights_eq_fault_iff {mask : Frame} {channel : Channel} {target : Extent}
    (nonempty : ¬ target.IsEmpty) {cause : MaskError} :
    mask.weights channel target = .error (.fault cause) ↔ mask.plane channel = .error cause := by
  cases accepted : mask.plane channel with
  | error other =>
    rw [weights, if_neg nonempty, accepted]
    simp only [Except.error.injEq, Halt.fault.injEq]
  | ok p =>
    obtain ⟨-, w, made, -⟩ | ⟨-, crashed⟩ := weights_cases accepted nonempty
    · simp only [made, reduceCtorEq]
    · simp only [crashed, Except.error.injEq, reduceCtorEq]

/-- The program crashes where the mask is accepted, is brought to another size, and this is out of
reach. -/
theorem weights_eq_crash_iff {mask : Frame} {channel : Channel} {target : Extent}
    (nonempty : ¬ target.IsEmpty) :
    mask.weights channel target = .error .crash ↔
      (∃ p, mask.plane channel = .ok p) ∧
        ¬ (mask.extent = target ∨ WithinReach mask.extent target) := by
  cases accepted : mask.plane channel with
  | error cause =>
    rw [(weights_eq_fault_iff nonempty).2 accepted]
    refine iff_of_false nofun ?_
    rintro ⟨⟨_, ⟨⟩⟩, -⟩
  | ok p =>
    obtain ⟨either, w, made, -⟩ | ⟨neither, crashed⟩ := weights_cases accepted nonempty
    · rw [made]
      exact iff_of_false nofun fun h => h.2 either
    · rw [crashed]
      exact iff_of_true rfl ⟨⟨p, rfl⟩, neither⟩

/-- **Weights are made within reach, and nowhere else at another size.** The centres of pixels are
numbers from 0 to 1 at any size. No pixel reads a texel off the plane exactly when both sides are
within reach, which moderate sides of the mask or of the target are; out of reach the program
crashes, unless the mask is used as it is. -/
theorem weights_reach {mask : Frame} {channel : Channel} {p : Plane}
    (accepted : mask.plane channel = .ok p) {target : Extent} (nonempty : ¬ target.IsEmpty) :
    (∀ x < target.width, ∃ u, (centre target.width x).Denotes u ∧ 0 ≤ u ∧ u ≤ 1) ∧
    (∀ y < target.height, ∃ v, (centre target.height y).Denotes v ∧ 0 ≤ v ∧ v ≤ 1) ∧
    ((∀ x < target.width, ∀ y < target.height,
        ∀ c ∈ p.corners (centre target.width x) (centre target.height y),
          c.1 < mask.extent.width ∧ c.2 < mask.extent.height) ↔
      WithinReach mask.extent target) ∧
    ((∃ w, mask.weights channel target = .ok w ∧ w.extent = target) ↔
      mask.extent = target ∨ WithinReach mask.extent target) ∧
    (¬ (mask.extent = target ∨ WithinReach mask.extent target) →
      mask.weights channel target = .error .crash) ∧
    ((mask.extent.width ≤ 2 ^ 24 ∨ target.width ≤ 2 ^ 23) →
      (mask.extent.height ≤ 2 ^ 24 ∨ target.height ≤ 2 ^ 23) → WithinReach mask.extent target) := by
  have extent := plane_extent accepted
  have sides : ¬ p.extent.IsEmpty := extent ▸ mask.nonempty
  have either := weights_cases accepted nonempty
  obtain ⟨wide, tall⟩ := not_or.1 nonempty
  refine ⟨fun x hx => centre_mem hx (by simpa using target.width_lt),
    fun y hy => centre_mem hy (by simpa using target.height_lt), ⟨?_, ?_⟩, ⟨?_, ?_⟩, ?_,
    withinReach_of_le mask.nonempty nonempty⟩
  · intro inside
    by_contra outside
    have last := inside (target.width - 1) (by omega) (target.height - 1) (by omega) _
      List.mem_cons_self
    have off := last_off sides nonempty (extent ▸ outside)
    rw [extent] at off last
    omega
  · intro reach x hx y hy
    rw [← extent] at reach ⊢
    exact corners_withinReach sides reach hx hy
  · rintro ⟨w, made, -⟩
    obtain ⟨held, -⟩ | ⟨-, crashed⟩ := either
    · exact held
    · rw [crashed] at made
      cases made
  · intro held
    obtain ⟨-, made⟩ | ⟨neither, -⟩ := either
    · exact made
    · exact absurd held neither
  · intro neither
    obtain ⟨held, -⟩ | ⟨-, crashed⟩ := either
    · exact absurd held neither
    · exact crashed

/-- A black mask of one row, four texels longer than `2 ^ 24`. -/
def longMask : Frame where
  extent := row 16777220
  layout := .gray
  bytes := Array.replicate 16777220 0
  nonempty := by decide
  size_eq := by rw [Array.size_replicate]; rfl

theorem longMask_plane : ∃ p, longMask.plane .red = .ok p := by
  simp only [plane]
  split
  · next h => cases h
  · exact ⟨_, rfl⟩

/-- At a row two pixels longer than `2 ^ 23` the last sample reads the texel behind the last one of
the long mask. -/
theorem longMask_weights : longMask.weights .red (row 8388610) = .error .crash := by
  have far : ¬ (longMask.extent = row 8388610 ∨ WithinReach longMask.extent (row 8388610)) := by
    decide +kernel
  exact (weights_eq_crash_iff (by decide)).2 ⟨longMask_plane, far⟩

/-- The long mask is accepted, and yet there are no weights. -/
theorem longMask_crash : (∃ p, longMask.plane .red = .ok p) ∧ ¬ (row 8388610).IsEmpty ∧
    ¬ (∃ w, longMask.weights .red (row 8388610) = .ok w) ∧
    longMask.weights .red (row 8388610) = .error .crash := by
  refine ⟨longMask_plane, by decide, ?_, longMask_weights⟩
  rintro ⟨w, made⟩
  rw [longMask_weights] at made
  cases made

/-- The long mask is within reach of a row of `2 ^ 23` pixels. -/
theorem weights_reach_longMask :
    ∃ w, longMask.weights .red (row 8388608) = .ok w ∧ w.extent = row 8388608 := by
  obtain ⟨p, accepted⟩ := longMask_plane
  have nonempty : ¬ (row 8388608).IsEmpty := by decide
  obtain ⟨-, -, -, made, -, moderate⟩ := weights_reach accepted nonempty
  exact made.2 (.inr (moderate (.inr (by decide)) (.inl (by decide))))

end Frame

end Tint
