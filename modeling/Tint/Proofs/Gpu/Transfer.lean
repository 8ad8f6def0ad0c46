import Mathlib.Order.Bounds.Basic
import Tint.Proofs.Gpu.Healthy

/-!
# Frames on their way to a device and back

A frame is sent to a device as color with alpha, row after row. A texture is read back through a
buffer in which each row is followed by what fills it up to the row alignment, and the rows are
taken out of the buffer one after the other.

## The model

* `alignWord` rounds a row length up as it is done in words of 32 bits; `alignRow` is the same
  on naturals.
* `rowsOf` are the rows of a buffer in the order in which they are taken.
* `Frame.spread` is a frame as color with alpha, and `Frame.IsSpread` says what that is, pixel by
  pixel: gray stands for itself in all four channels, colors have a full alpha.
* `Passage` says of a size that all lengths on the way are within their words, and that any
  buffer of the right length has the rows that the frame needs.

## What is proved

* `toNat_alignWord`: rounding up in words is rounding up.
* `unpaddedRows_paddedRows`: rows that are put into a buffer come out of it.
* `Device.download_upload`: a frame that is not too large comes back as color with alpha, whatever
  is done on the device in between; one that is too large is refused before anything is made.
-/

namespace Tint.Gpu

namespace Device

/-! ### Row lengths -/

/-- The row length in a buffer is the least multiple of the row alignment that holds a row. -/
theorem isLeast_alignRow (length : Nat) :
    IsLeast {n | rowAlignment ∣ n ∧ length ≤ n} (alignRow length) := by
  constructor
  · refine ⟨Dvd.intro_left _ rfl, ?_⟩
    rw [alignRow, rowAlignment]
    omega
  · rintro n ⟨⟨k, rfl⟩, holds⟩
    rw [rowAlignment] at holds ⊢
    rw [alignRow, rowAlignment]
    omega

/-- Rounding up in words of 32 bits, for an alignment that is a power of two: what the
alignment may have more is added, and the bits below the alignment are cleared. -/
def alignWord (length alignment : UInt32) : UInt32 :=
  (length + (alignment - 1)) &&& ~~~(alignment - 1)

/-- A word is made of the bits that a mask clears and of those that it keeps. -/
theorem toNat_and_not_add (n mask : UInt32) :
    (n &&& ~~~mask).toNat + (n &&& mask).toNat = n.toNat := by
  have disjoint : (n.toBitVec &&& ~~~mask.toBitVec) &&& (n.toBitVec &&& mask.toBitVec) = 0#32 := by
    ext i
    simp only [BitVec.getElem_and, BitVec.getElem_not, BitVec.getElem_zero]
    cases n.toBitVec[i] <;> cases mask.toBitVec[i] <;> rfl
  have joined :
      (n.toBitVec &&& ~~~mask.toBitVec) ||| (n.toBitVec &&& mask.toBitVec) = n.toBitVec := by
    ext i
    simp only [BitVec.getElem_and, BitVec.getElem_not, BitVec.getElem_or]
    cases n.toBitVec[i] <;> cases mask.toBitVec[i] <;> rfl
  have sum := congrArg BitVec.toNat (BitVec.add_eq_or_of_and_eq_zero _ _ disjoint)
  rw [joined, BitVec.toNat_add_of_and_eq_zero disjoint] at sum
  exact sum

/-- The words give the same length as long as they do not wrap around. -/
theorem toNat_alignWord {length : UInt32} (small : length.toNat + 255 < 2 ^ 32) :
    (alignWord length 256).toNat = alignRow length.toNat := by
  have mask : (256 - 1 : UInt32) = 255 := rfl
  have raised : (length + 255).toNat = length.toNat + 255 := by
    rw [UInt32.toNat_add]
    exact Nat.mod_eq_of_lt small
  have kept : ((length + 255) &&& 255).toNat = (length.toNat + 255) % 2 ^ 8 := by
    rw [UInt32.toNat_and, raised]
    exact Nat.and_two_pow_sub_one_eq_mod _ 8
  have cleared := toNat_and_not_add (length + 255) 255
  rw [alignWord, mask, alignRow, rowAlignment]
  omega

/-! ### Rows of a buffer -/

/-- The rows of a buffer: the first `row` bytes of each whole stretch of `padded` bytes. -/
def rowsOf (buffer : Array UInt8) (row padded : Nat) : List (List UInt8) :=
  (Stretch.wholes padded buffer.size).map fun s => (buffer.extract s.start (s.start + row)).toList

theorem toList_extract_eq {buffer : Array UInt8} {start row : Nat}
    (inside : start + row ≤ buffer.size) :
    (buffer.extract start (start + row)).toList =
      (List.range row).map fun x => buffer.getD (start + x) 0 := by
  refine List.ext_getElem ?_ ?_
  · simp only [Array.length_toList, Array.size_extract, List.length_map, List.length_range]
    omega
  · intro x hx hx'
    rw [List.length_map, List.length_range] at hx'
    simp only [Array.getElem_toList, Array.getElem_extract, List.getElem_map, List.getElem_range,
      Array.getD_eq_getD_getElem?,
      Array.getElem?_eq_getElem (show start + x < buffer.size by omega),
      Option.getD_some]

variable {buffer : Array UInt8} {row padded height : Nat}

theorem rowsOf_eq (size : buffer.size = padded * height) (fits : row ≤ padded) (pos : 0 < padded) :
    rowsOf buffer row padded = (List.range height).map fun y =>
      (List.range row).map fun x => buffer.getD (y * padded + x) 0 := by
  rw [rowsOf, size, Nat.mul_comm, Stretch.wholes_mul height pos, List.map_map]
  refine List.map_congr_left ?_
  intro y hy
  have inside : (y + 1) * padded ≤ height * padded := Nat.mul_le_mul_right _ (List.mem_range.1 hy)
  rw [Nat.succ_mul, Nat.mul_comm height, ← size] at inside
  exact toList_extract_eq (show y * padded + row ≤ buffer.size by omega)

theorem toList_unpaddedRows (size : buffer.size = padded * height) (fits : row ≤ padded)
    (pos : 0 < row) :
    (unpaddedRows buffer row padded height).toList = (rowsOf buffer row padded).flatten := by
  have places : (unpaddedRows buffer row padded height).toList =
      (List.range (height * row)).map fun i => buffer.getD (i / row * padded + i % row) 0 := by
    refine List.ext_getElem ?_ ?_
    · simp [unpaddedRows, Nat.mul_comm]
    · intro i hi hi'
      simp [unpaddedRows]
  rw [places, rowsOf_eq size fits (by omega), ← range_mul, List.map_flatMap, List.flatMap_def]
  refine congrArg List.flatten (List.map_congr_left ?_)
  intro y _
  rw [List.map_map]
  refine List.map_congr_left ?_
  intro x hx
  rw [Function.comp, place_div y (List.mem_range.1 hx), place_mod y (List.mem_range.1 hx)]

/-- Rows that were put into a buffer come out of it. -/
theorem unpaddedRows_paddedRows {texels : Array UInt8} (size : texels.size = row * height)
    (fits : row ≤ padded) :
    unpaddedRows (paddedRows texels row padded height) row padded height = texels := by
  refine Array.ext (by rw [unpaddedRows, Array.size_ofFn, size]) ?_
  intro i hi inside
  rw [size] at inside
  have pos : 0 < row := Nat.pos_of_mul_pos_right (Nat.zero_lt_of_lt inside)
  have column : i % row < row := Nat.mod_lt _ pos
  have rowNumber : i / row < height := Nat.div_lt_of_lt_mul inside
  have place : i / row * padded + i % row < padded * height := by
    have : (i / row + 1) * padded ≤ height * padded := Nat.mul_le_mul_right _ rowNumber
    rw [Nat.succ_mul, Nat.mul_comm height] at this
    omega
  have inner : i % row < padded := Nat.lt_of_lt_of_le column fits
  simp only [unpaddedRows, Array.getElem_ofFn]
  rw [Array.getD_eq_getD_getElem?, paddedRows, Array.getElem?_ofFn, dif_pos place,
    place_div _ inner, place_mod _ inner, if_pos column, Option.getD_some, Nat.div_add_mod',
    Array.getD_eq_getD_getElem?, Array.getElem?_eq_getElem, Option.getD_some]

/-! ### Color with alpha -/

/-- A byte of a texel, from the bytes of the pixel. -/
theorem getD_texelsOf (f : Frame) {i c : Nat} (inside : i < f.extent.area) (four : c < 4) :
    (texelsOf f).val.getD (i * 4 + c) 0 =
      match f.layout with
      | .gray => f.bytes.getD i 0
      | .rgb => if c < 3 then f.bytes.getD (i * 3 + c) 0 else 255
      | .rgba => f.bytes.getD (i * 4 + c) 0 := by
  have texel : (i * 4 + c) / 4 = i := place_div i four
  have channel : (i * 4 + c) % 4 = c := place_mod i four
  rw [Array.getD_eq_getD_getElem?, getElem?_texelsOf f (Frame.planePlace_lt inside four),
    Option.getD_some]
  cases f.layout with
  | gray => simp only [texelSource, texel]
  | rgb =>
    simp only [texelSource, texel, channel]
    split <;> simp_all
  | rgba => rfl

end Device

end Tint.Gpu

namespace Tint

open Gpu

/-- The four channels of a pixel on a device. -/
def PixelLayout.spread : PixelLayout → List UInt8 → List UInt8
  | .gray, [g] => [g, g, g, g]
  | .rgb, [r, g, b] => [r, g, b, 255]
  | _, pixel => pixel

namespace Frame

theorem pixel?_eq (f : Frame) {x y : Nat} (hx : x < f.extent.width) (hy : y < f.extent.height) :
    f.pixel? x y = some ((List.range f.layout.channels).map fun c =>
      f.bytes.getD ((y * f.extent.width + x) * f.layout.channels + c) 0) := by
  have inside : (y * f.extent.width + x + 1) * f.layout.channels ≤ f.bytes.size := by
    rw [f.size_eq]
    exact Nat.mul_le_mul_right _ (Extent.place_lt hx hy)
  rw [Nat.succ_mul] at inside
  rw [pixel?, if_pos ⟨hx, hy⟩, Frame.channels]
  exact congrArg some (Device.toList_extract_eq inside)

/-- The frame as color with alpha. -/
def spread (f : Frame) : Frame where
  extent := f.extent
  layout := .rgba
  bytes := (Device.texelsOf f).val
  nonempty := f.nonempty
  size_eq := (Device.texelsOf f).property

/-- The frame as color with alpha has four channels for each pixel. -/
theorem pixel?_spread (f : Frame) (x y : Nat) :
    f.spread.pixel? x y = (f.pixel? x y).map f.layout.spread := by
  by_cases inside : x < f.extent.width ∧ y < f.extent.height
  · obtain ⟨hx, hy⟩ := inside
    have place := Extent.place_lt hx hy
    have bytes : (List.range 4).map (fun c =>
        (Device.texelsOf f).val.getD ((y * f.extent.width + x) * 4 + c) 0) =
        f.layout.spread ((List.range f.layout.channels).map fun c =>
          f.bytes.getD ((y * f.extent.width + x) * f.layout.channels + c) 0) := by
      rw [List.map_congr_left fun c hc => Device.getD_texelsOf f place (List.mem_range.1 hc)]
      cases f.layout with
      | gray => simp only [PixelLayout.channels, Nat.mul_one]; rfl
      | rgb | rgba => rfl
    rw [f.pixel?_eq hx hy, Option.map_some, ← bytes]
    exact f.spread.pixel?_eq hx hy
  · have outside : f.pixel? x y = none := if_neg inside
    rw [outside]
    exact if_neg inside

theorem eq_of_bytes {f g : Frame} (extent : f.extent = g.extent) (layout : f.layout = g.layout)
    (bytes : f.bytes = g.bytes) : f = g := by
  obtain ⟨e, l, b, _, _⟩ := f
  obtain ⟨e', l', b', _, _⟩ := g
  cases extent
  cases layout
  cases bytes
  rfl

theorem toRgb_bytes (f : Frame) : f.toRgb.bytes =
    Array.ofFn fun (i : Fin (f.extent.area * 3)) => f.bytes.getD (colorPlace f.layout i) 0 := by
  refine congrArg Array.ofFn (funext fun i => ?_)
  have inside := colorPlace_lt f.layout i.isLt
  rw [← f.size_eq] at inside
  rw [Array.getD_eq_getD_getElem?, Array.getElem?_eq_getElem inside, Option.getD_some]

theorem toRgb_spread (f : Frame) : f.spread.toRgb = f.toRgb := by
  have byte (i : Fin (f.extent.area * 3)) :
      f.spread.bytes.getD (colorPlace .rgba i) 0 = f.bytes.getD (colorPlace f.layout i) 0 := by
    have texel : i.val / 3 < f.extent.area := Nat.div_lt_of_lt_mul (Nat.mul_comm _ 3 ▸ i.isLt)
    have channel : i.val % 3 < 3 := Nat.mod_lt _ (by decide)
    refine (Device.getD_texelsOf f texel (Nat.lt_succ_of_lt channel)).trans ?_
    cases f.layout with
    | gray | rgba => rfl
    | rgb => rw [colorPlace]; simp only [if_pos channel, Nat.div_add_mod']
  refine eq_of_bytes rfl rfl ?_
  rw [toRgb_bytes, toRgb_bytes]
  exact congrArg Array.ofFn (funext byte)

/-- The frame `out` is `f` as color with alpha. -/
structure IsSpread (f out : Frame) : Prop where
  /-- The size is kept. -/
  extent : out.extent = f.extent
  /-- There are four channels. -/
  layout : out.layout = .rgba
  /-- Each pixel is spread on its own. -/
  pixel : ∀ x y, out.pixel? x y = (f.pixel? x y).map f.layout.spread
  /-- The colors are the same. -/
  colors : out.toRgb = f.toRgb

end Frame

namespace Gpu.Device

/-! ### Passing through a buffer -/

/-- How the rows of a picture pass through a buffer. -/
structure Passage (e : Extent) : Prop where
  /-- The length of a row, with what is added before it is rounded up, is a number of 32 bits. -/
  row : e.width * 4 + 255 < 2 ^ 32
  /-- Rounding up in words gives the length of a row in the buffer. -/
  padded : (alignWord (UInt32.ofNat (e.width * 4)) 256).toNat = alignRow (e.width * 4)
  /-- The length of a row in the buffer is the least that is allowed. -/
  least : IsLeast {n | 256 ∣ n ∧ e.width * 4 ≤ n} (alignRow (e.width * 4))
  /-- The length of the buffer is a number of 64 bits. -/
  buffer : alignRow (e.width * 4) * e.height < 2 ^ 64
  /-- Every buffer of that length has one row of texels for each row of the picture. -/
  rows : ∀ buffer : Array UInt8, buffer.size = alignRow (e.width * 4) * e.height →
    (rowsOf buffer (e.width * 4) (alignRow (e.width * 4))).length = e.height ∧
    (∀ r ∈ rowsOf buffer (e.width * 4) (alignRow (e.width * 4)), r.length = e.width * 4) ∧
    (unpaddedRows buffer (e.width * 4) (alignRow (e.width * 4)) e.height).toList =
      (rowsOf buffer (e.width * 4) (alignRow (e.width * 4))).flatten
  /-- The texels of all rows make a frame. -/
  frame : ∀ bytes : Array UInt8, bytes.size = e.width * 4 * e.height →
    ∃ f, Frame.ofBytes e .rgba bytes = .ok f

/-- A picture of a size of the device passes through a buffer. -/
theorem passage_of_fits {d : Device} (limit : d.limit ≤ 2 ^ 24) {e : Extent}
    (fits : d.fits e = true) : Passage e := by
  obtain ⟨nonempty, -, buffer, bytes⟩ := small_of_fits limit fits
  have wide : 0 < e.width ∧ e.width ≤ d.limit := by
    simp only [Device.fits, Bool.and_eq_true, decide_eq_true_eq] at fits
    omega
  have row : e.width * 4 + 255 < 2 ^ 32 := by omega
  have word : (UInt32.ofNat (e.width * 4)).toNat = e.width * 4 := by
    rw [UInt32.toNat_ofNat']
    omega
  have least := isLeast_alignRow (e.width * 4)
  refine ⟨row, ?_, least, Nat.lt_of_not_le buffer, ?_, ?_⟩
  · rw [toNat_alignWord (by rw [word]; exact row), word]
  · intro buffer size
    have rows := rowsOf_eq size least.1.2 (by have := least.1.2; omega)
    refine ⟨by rw [rows, List.length_map, List.length_range], ?_,
      toList_unpaddedRows size least.1.2 (by omega)⟩
    intro r member
    rw [rows] at member
    obtain ⟨y, -, rfl⟩ := List.mem_map.1 member
    rw [List.length_map, List.length_range]
  · intro texels size
    have count : texels.size = e.area * PixelLayout.rgba.channels := by
      rw [size, Extent.area, PixelLayout.channels, Nat.mul_right_comm]
    exact ⟨_, Frame.ofBytes_self ⟨e, .rgba, texels, nonempty, count⟩
      (by rw [count]; exact Nat.lt_of_not_le bytes)⟩

/-! ### There and back -/

variable {d : Device} {f : Frame}

theorem upload_refused (large : d.limit < f.extent.width ∨ d.limit < f.extent.height) :
    upload f d = (.error (.fault (.texture (.outsideLimit f.extent d.limit))), d) := by
  have outside : ¬ d.fits f.extent = true := by
    simp only [fits, Bool.and_eq_true, decide_eq_true_eq]
    omega
  have refused : createTexture f.extent [.textureBinding, .copyDst, .copySrc] (texelsOf f) d =
      (.error (.fault (.texture (.outsideLimit f.extent d.limit))), d) := by
    simp only [createTexture, bind, Job.get, if_neg outside]
    rfl
  simp only [upload, bind, refused]

theorem download_texels (limit : d.limit ≤ 2 ^ 24) {g : GpuFrame} (serves : d.Serves g.texture)
    {texels : Texels g.texture.extent} (uploaded : g.texture.texels = some texels) :
    ∃ out d', download g d = (.ok out, d') ∧ out.extent = g.extent ∧ out.layout = .rgba ∧
      out.bytes = texels.val := by
  obtain ⟨out, d', read, -, extent, layout, bytes⟩ := download_rows limit serves
  refine ⟨out, d', read, extent, layout, ?_⟩
  have contents : d.contents g.texture = texels.val := by rw [contents, uploaded]
  have size : texels.val.size = g.extent.width * 4 * g.extent.height := by
    rw [texels.property, Extent.area, Nat.mul_right_comm]
    rfl
  rw [bytes, contents, unpaddedRows_paddedRows size (isLeast_alignRow _).1.2]

/-- **A frame comes back from a device as color with alpha.** A frame that is too large is
refused before anything is made. Every other frame passes through words and buffers that hold
it, and what is read back, whatever else has been done on the device by then, is the frame with
its gray repeated or a full alpha added. -/
theorem download_upload (d : Device) (f : Frame) :
    ((∃ halt, (upload f d).1 = .error halt) ↔
      d.limit < f.extent.width ∨ d.limit < f.extent.height) ∧
    (∀ halt, (upload f d).1 = .error halt → (upload f d).2 = d ∧
      ∃ fault, halt = .fault fault ∧ fault.kind = .contractViolation) ∧
    (d.limit ≤ 2 ^ 24 → (∀ id ∈ d.destroyed, id < d.next) →
      f.extent.width ≤ d.limit → f.extent.height ≤ d.limit →
      Passage f.extent ∧ ∃ g d₁ out, upload f d = (.ok g, d₁) ∧ g.source = f.layout ∧
        f.IsSpread out ∧ ∀ d', d₁.Extends d' → (download g d').1 = .ok out) := by
  have outcome (small : ¬ (d.limit < f.extent.width ∨ d.limit < f.extent.height)) :
      d.fits f.extent = true := by
    rw [not_or, Nat.not_lt, Nat.not_lt] at small
    exact fits_of_le f.nonempty small.1 small.2
  refine ⟨⟨?_, ?_⟩, ?_, ?_⟩
  · rintro ⟨halt, refused⟩
    by_contra small
    rw [upload_eq (outcome small)] at refused
    cases refused
  · intro large
    exact ⟨_, by rw [upload_refused large]⟩
  · intro halt refused
    by_cases large : d.limit < f.extent.width ∨ d.limit < f.extent.height
    · rw [upload_refused large] at refused ⊢
      cases refused
      exact ⟨rfl, _, rfl, rfl⟩
    · rw [upload_eq (outcome large)] at refused
      cases refused
  · intro limit made wide tall
    have fits := fits_of_le f.nonempty wide tall
    refine ⟨passage_of_fits limit fits, _, _, f.spread, upload_eq fits, rfl,
      ⟨rfl, rfl, f.pixel?_spread, f.toRgb_spread⟩, ?_⟩
    intro d' later
    have serves : Serves { d with next := d.next + 1, textures := d.next :: d.textures }
        ⟨d.id, d.next, f.extent, .frame, [.textureBinding, .copyDst, .copySrc],
          some (texelsOf f)⟩ :=
      ⟨rfl, Nat.lt_succ_self _, fun gone => Nat.lt_irrefl _ (made _ gone), rfl, by simp, by simp,
        fits⟩
    obtain ⟨out, d'', read, extent, layout, bytes⟩ := download_texels
      (g := ⟨_, f.layout⟩) (later.limit ▸ limit) (serves.extends later) rfl
    rw [read]
    exact congrArg Except.ok (Frame.eq_of_bytes extent layout bytes)

/-- A white pixel above a gray one goes to a device of the usual limit and comes back. -/
theorem download_upload_column :
    ∃ g d₁ out, upload CpuEngine.column {} = (.ok g, d₁) ∧ (download g d₁).1 = .ok out ∧
      out.pixel? 0 1 = some [9, 9, 9, 255] ∧ out.toRgb = CpuEngine.column.toRgb := by
  obtain ⟨-, -, back⟩ := download_upload {} CpuEngine.column
  obtain ⟨-, g, d₁, out, sent, -, spread, read⟩ := back (by decide) nofun (by decide) (by decide)
  refine ⟨g, d₁, out, sent, read d₁ (.refl d₁), ?_, spread.colors⟩
  rw [spread.pixel]
  rfl

end Gpu.Device

end Tint
