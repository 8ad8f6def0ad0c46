import Mathlib.Data.List.Nodup
import Mathlib.Data.List.Range
import Tint.Engine.Rows
import Tint.Proofs.Mixing

/-!
# Rows in any order

The jobs of a frame cut three buffers with two lengths of a row, and the writes of all jobs
are shown to be those of the pixels one after the other (`rowWrites_eq`): nothing is shifted
and nothing is left out. So the places that are written are all places of the result, each
once (`rowWrites_places`), and writes to distinct places may be made in any order
(`Write.all_perm`), whether whole rows are exchanged or the writes of rows are interleaved
(`IsSchedule.all_eq`).

`Recoloring` is what this says of the result, pixel by pixel.
-/

namespace Tint

theorem range_mul (n k : ℕ) :
    ((List.range n).flatMap fun i => (List.range k).map fun j => i * k + j) =
      List.range (n * k) := by
  induction n with
  | zero => rw [Nat.zero_mul]; rfl
  | succ n ih =>
    rw [List.range_succ, List.flatMap_append, ih, List.flatMap_singleton, Nat.succ_mul,
      List.range_add]

/-! ### Stretches -/

namespace Stretch

theorem chunks_mul (n : ℕ) {size : ℕ} (pos : 0 < size) :
    chunks size (n * size) = (List.range n).map fun i => ⟨i * size, size⟩ := by
  have count : (n * size + size - 1) / size = n := by
    rw [Nat.add_sub_assoc pos, Nat.mul_comm, Nat.mul_add_div pos, Nat.div_eq_of_lt (by omega),
      Nat.add_zero]
  rw [chunks, count]
  refine List.map_congr_left ?_
  intro i hi
  have next : (i + 1) * size ≤ n * size := Nat.mul_le_mul_right _ (List.mem_range.1 hi)
  rw [Nat.succ_mul] at next
  rw [show Nat.min size (n * size - i * size) = size from Nat.min_eq_left (by omega)]

theorem wholes_mul (n : ℕ) {size : ℕ} (pos : 0 < size) :
    wholes size (n * size) = (List.range n).map fun i => ⟨i * size, size⟩ := by
  rw [wholes, Nat.mul_div_cancel _ pos]

end Stretch

/-! ### Writes -/

namespace Write

theorem getElem?_foldl_put_of_notMem {writes : List Write} {place : ℕ}
    (h : place ∉ writes.map Write.place) (buffer : Array UInt8) :
    (writes.foldl put buffer)[place]? = buffer[place]? := by
  induction writes generalizing buffer with
  | nil => rfl
  | cons w rest ih =>
    rw [List.map_cons, List.mem_cons, not_or] at h
    rw [List.foldl_cons, ih h.2, put, Array.getElem?_setIfInBounds_ne (Ne.symm h.1)]

theorem getElem?_foldl_put {writes : List Write} (distinct : (writes.map Write.place).Nodup)
    {w : Write} (h : w ∈ writes) (buffer : Array UInt8) (inside : w.place < buffer.size) :
    (writes.foldl put buffer)[w.place]? = some w.byte := by
  induction writes generalizing buffer with
  | nil => cases h
  | cons v rest ih =>
    rw [List.map_cons, List.nodup_cons] at distinct
    rw [List.foldl_cons]
    rcases List.mem_cons.1 h with rfl | later
    · rw [getElem?_foldl_put_of_notMem distinct.1, put, Array.getElem?_setIfInBounds_self_of_lt inside]
    · exact ih distinct.2 later _ (by rwa [put, Array.size_setIfInBounds])

theorem getD_all {size : ℕ} {writes : List Write} (distinct : (writes.map Write.place).Nodup)
    {w : Write} (h : w ∈ writes) (inside : w.place < size) :
    (all size writes).getD w.place 0 = w.byte := by
  rw [Array.getD_eq_getD_getElem?, all,
    getElem?_foldl_put distinct h _ (by rwa [Array.size_replicate]), Option.getD_some]

/-- **Writes to distinct places leave the same buffer in every order.** -/
theorem all_perm {writes others : List Write} (perm : others.Perm writes)
    (distinct : (writes.map Write.place).Nodup) (size : ℕ) : all size others = all size writes := by
  refine perm.foldl_eq' (fun v hv w hw buffer => ?_) _
  by_cases same : v.place = w.place
  · rw [List.inj_on_of_nodup_map distinct (perm.subset hv) (perm.subset hw) same]
  · exact Array.setIfInBounds_comm _ _ same

end Write

/-! ### Rows -/

/-- The writes of pixel number `i`. -/
def pixelWrites (source : Frame) (weights : Plane) (target : Rgb Single) (i : ℕ) : List Write :=
  Write.ofColor (i * 3)
    (Mix.pixel (colorAt source.bytes (i * 3)) (weights.bytes.getD i 0) target)

section

variable {source : Frame} {weights : Plane} {target : Rgb Single}

/-- The job of a row works on the row of the same number in each buffer. -/
theorem rowJobs_eq (rgb : source.layout = .rgb) (same : weights.extent = source.extent) :
    rowJobs source weights = (List.range source.extent.height).map fun y =>
      ⟨⟨y * (source.extent.width * 3), source.extent.width * 3⟩,
        ⟨y * (source.extent.width * 3), source.extent.width * 3⟩,
        ⟨y * source.extent.width, source.extent.width⟩⟩ := by
  have pos : 0 < source.extent.width := by
    have := source.nonempty
    rw [Extent.IsEmpty] at this
    omega
  have stride : source.stride = source.extent.width * 3 := by
    rw [Frame.stride, Frame.channels, rgb]
    rfl
  have size : source.bytes.size = source.extent.height * (source.extent.width * 3) := by
    rw [source.size_eq, rgb, Extent.area, PixelLayout.channels]
    ring
  have weightSize : weights.bytes.size = source.extent.height * source.extent.width := by
    rw [weights.size_eq, same, Extent.area, Nat.mul_comm]
  rw [rowJobs, stride, size, weightSize, Stretch.chunks_mul _ (by omega), Stretch.chunks_mul _ pos,
    List.zip_map', List.zip_map', List.map_map]
  rfl

theorem writes_row (w y : ℕ) :
    RowJob.writes source.bytes weights.bytes target
        ⟨⟨y * (w * 3), w * 3⟩, ⟨y * (w * 3), w * 3⟩, ⟨y * w, w⟩⟩ =
      (List.range w).flatMap fun x => pixelWrites source weights target (y * w + x) := by
  have columns : (List.range w).map id = List.range w := List.map_id _
  rw [RowJob.writes]
  simp only
  rw [Stretch.wholes_mul w (by decide)]
  nth_rewrite 3 [← columns]
  rw [List.zip_map', List.zip_map', List.flatMap_map]
  refine List.flatMap_congr ?_
  intro x _
  have place : y * (w * 3) + x * 3 = (y * w + x) * 3 := by ring
  simp only [pixelWrites, place, id]

/-- **The rows write the pixels of the frame, one after the other.** -/
theorem rowWrites_eq (rgb : source.layout = .rgb) (same : weights.extent = source.extent) :
    rowWrites source weights target (rowJobs source weights) =
      (List.range source.extent.area).flatMap (pixelWrites source weights target) := by
  have area : source.extent.area = source.extent.height * source.extent.width := Nat.mul_comm _ _
  rw [rowWrites, rowJobs_eq rgb same, List.flatMap_map, area, ← range_mul, List.flatMap_assoc]
  refine List.flatMap_congr ?_
  intro y _
  rw [writes_row, List.flatMap_map]

/-- **The rows write every place of the result, each once.** -/
theorem rowWrites_places (rgb : source.layout = .rgb) (same : weights.extent = source.extent) :
    (rowWrites source weights target (rowJobs source weights)).map Write.place =
      List.range source.bytes.size := by
  rw [rowWrites_eq rgb same, List.map_flatMap, source.size_eq, rgb, PixelLayout.channels,
    ← range_mul]
  rfl

/-- The writes are those of the rows of a frame, the rows in some order and the writes of
different rows between each other. -/
def IsSchedule (source : Frame) (weights : Plane) (target : Rgb Single) (writes : List Write) :
    Prop :=
  ∃ jobs, jobs.Perm (rowJobs source weights) ∧ writes.Perm (rowWrites source weights target jobs)

/-- **Every schedule writes each place once, and what the rows write from top to bottom.** -/
theorem IsSchedule.all_eq (rgb : source.layout = .rgb) (same : weights.extent = source.extent)
    {writes : List Write} (h : IsSchedule source weights target writes) :
    (writes.map Write.place).Perm (List.range source.bytes.size) ∧
      Write.all source.bytes.size writes = (recolored source weights target).bytes := by
  obtain ⟨jobs, order, interleaved⟩ := h
  have perm : writes.Perm (rowWrites source weights target (rowJobs source weights)) :=
    interleaved.trans (order.flatMap_right _)
  have places := @rowWrites_places source weights target rgb same
  refine ⟨places ▸ perm.map _, Write.all_perm perm ?_ _⟩
  rw [places]
  exact List.nodup_range

end

/-! ### Pixels -/

theorem toList_extract {bytes : Array UInt8} {start : ℕ} (inside : start + 3 ≤ bytes.size) :
    (bytes.extract start (start + 3)).toList = (colorAt bytes start).toList := by
  have byte (i : ℕ) (h : i < bytes.size) : bytes.getD i 0 = bytes.toList[i] := by
    rw [Array.getD_eq_getD_getElem?, Array.getElem?_eq_getElem h]
    rfl
  have length : bytes.toList.length = bytes.size := Array.length_toList
  rw [colorAt, Rgb.toList, byte _ (by omega), byte _ (by omega), byte _ (by omega),
    Array.toList_extract, List.extract_eq_take_drop, Nat.add_sub_cancel_left,
    List.drop_eq_getElem_cons (by omega), List.drop_eq_getElem_cons (by omega),
    List.drop_eq_getElem_cons (by omega)]
  rfl

theorem Frame.pixel?_rgb {f : Frame} (rgb : f.layout = .rgb) {x y : ℕ} (hx : x < f.extent.width)
    (hy : y < f.extent.height) :
    f.pixel? x y = some (colorAt f.bytes ((y * f.extent.width + x) * 3)).toList := by
  have inside : (y * f.extent.width + x) * 3 + 3 ≤ f.bytes.size := by
    have := Extent.place_lt hx hy
    rw [f.size_eq, rgb, PixelLayout.channels]
    omega
  have channels : f.channels = 3 := by rw [Frame.channels, rgb]; rfl
  rw [Frame.pixel?, if_pos ⟨hx, hy⟩, channels]
  exact congrArg some (toList_extract inside)

/-- The color that the rows have written for a pixel. -/
theorem colorAt_recolored {source : Frame} {weights : Plane} {target : Rgb Single}
    (rgb : source.layout = .rgb) (same : weights.extent = source.extent) {i : ℕ}
    (inside : i < source.extent.area) :
    colorAt (recolored source weights target).bytes (i * 3) =
      Mix.pixel (colorAt source.bytes (i * 3)) (weights.bytes.getD i 0) target := by
  have distinct : ((rowWrites source weights target (rowJobs source weights)).map
      Write.place).Nodup := by
    rw [rowWrites_places rgb same]
    exact List.nodup_range
  have written {w : Write} (h : w ∈ pixelWrites source weights target i) :
      (recolored source weights target).bytes.getD w.place 0 = w.byte := by
    have mem : w ∈ rowWrites source weights target (rowJobs source weights) := by
      rw [rowWrites_eq rgb same, List.mem_flatMap]
      exact ⟨i, List.mem_range.2 inside, h⟩
    refine Write.getD_all distinct mem ?_
    rw [← List.mem_range, ← rowWrites_places rgb same]
    exact List.mem_map_of_mem mem
  set c := Mix.pixel (colorAt source.bytes (i * 3)) (weights.bytes.getD i 0) target with hc
  have red : (⟨i * 3, c.r⟩ : Write) ∈ pixelWrites source weights target i := by
    simp [pixelWrites, Write.ofColor, hc]
  have green : (⟨i * 3 + 1, c.g⟩ : Write) ∈ pixelWrites source weights target i := by
    simp [pixelWrites, Write.ofColor, hc]
  have blue : (⟨i * 3 + 2, c.b⟩ : Write) ∈ pixelWrites source weights target i := by
    simp [pixelWrites, Write.ofColor, hc]
  rw [colorAt, written red, written green, written blue]

/-- The frame `out` is `source` with each pixel mixed toward `target` by its weight. -/
structure Recoloring (source : Frame) (weights : Plane) (target : Rgb Single) (out : Frame) :
    Prop where
  /-- The size is kept. -/
  extent : out.extent = source.extent
  /-- The channels are kept. -/
  layout : out.layout = source.layout
  /-- Each pixel is mixed on its own. -/
  pixel : ∀ x y, x < source.extent.width → y < source.extent.height → ∃ s m,
    source.pixel? x y = some s.toList ∧ weights.texel? x y = some m ∧
      out.pixel? x y = some (Mix.pixel s m target).toList

theorem recoloring_recolored {source : Frame} {weights : Plane} (rgb : source.layout = .rgb)
    (same : weights.extent = source.extent) (target : Rgb Single) :
    Recoloring source weights target (recolored source weights target) where
  extent := rfl
  layout := rfl
  pixel x y hx hy := by
    have inside := Extent.place_lt hx hy
    have weight : weights.texel? x y =
        some (weights.bytes.getD (y * source.extent.width + x) 0) := by
      rw [Plane.texel?, same, if_pos ⟨hx, hy⟩, Array.getD_eq_getD_getElem?,
        Array.getElem?_eq_getElem (by rwa [weights.size_eq, same])]
      rfl
    have mixed := @colorAt_recolored source weights target rgb same _ inside
    refine ⟨_, _, Frame.pixel?_rgb rgb hx hy, weight, ?_⟩
    rw [← mixed]
    exact Frame.pixel?_rgb (f := recolored source weights target) rgb hx hy

end Tint
