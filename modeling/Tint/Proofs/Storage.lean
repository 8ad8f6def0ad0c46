import Tint.Proofs.Gpu.Transfer
import Tint.Proofs.Results
import Tint.Proofs.Widening

/-!
# Frames as they are stored

A frame carries the proof that its bytes are those of its pixels. What is stored of it does not:
there are two sides, a layout and bytes, nothing ties them to each other, and places are computed in
words of 64 bits. Frames are nevertheless what is stored. Whatever makes a stored frame makes one
whose sides are not zero and whose bytes are exactly those of its pixels, so that no computation on
it leaves its word or the bytes, and the checks that come after the first one never fail.

## The model

* `StoredFrame` is what is stored of a frame, and `Frame.stored` forgets the proofs.
* `Word.mul` and `Word.add` are products and sums of 64 bits; a `Trap` is how a computation ends
  that leaves its word or the bytes.
* What a stored frame is made from, and what is computed of it, is said again for stored frames,
  step by step and with all checks. For what is stored of a frame it is the same as for the frame.
* `fits` says whether a library takes a buffer as an image with a number of channels and an extent.
  All that is asked of it is that it takes buffers that are long enough for the pixels.
* `Obtained` are the stored frames that can come about.

## What is proved

* `StoredFrame.Obtained.exists_frame`: what can come about is what is stored of a frame.
* `StoredFrame.Obtained.recolor`: what an engine makes of a frame is among it.
* `StoredFrame.Obtained.sound`: what is true of every stored frame that can come about.
-/

namespace Tint

/-! ### Words -/

/-- How a computation ends that has no value. -/
inductive Trap where
  /-- A number is not one of 64 bits. -/
  | overflow
  /-- A place is not one of the bytes. -/
  | outside
deriving DecidableEq, Repr

namespace Word

/-- A product of 64 bits. -/
def mul (a b : ℕ) : Except Trap ℕ := if a * b < 2 ^ 64 then .ok (a * b) else .error .overflow

/-- A sum of 64 bits. -/
def add (a b : ℕ) : Except Trap ℕ := if a + b < 2 ^ 64 then .ok (a + b) else .error .overflow

theorem mul_eq {a b : ℕ} (small : a * b < 2 ^ 64) : mul a b = .ok (a * b) := if_pos small

theorem add_eq {a b : ℕ} (small : a + b < 2 ^ 64) : add a b = .ok (a + b) := if_pos small

end Word

theorem mapM_ok {α β γ : Type} {f : β → Except Trap γ} {h : α → β} {g : α → γ} {list : List α}
    (each : ∀ a ∈ list, f (h a) = .ok (g a)) : (list.map h).mapM f = .ok (list.map g) := by
  rw [mapM_eq_ok_iff, List.forall₂_map_left_iff, List.forall₂_map_right_iff, List.forall₂_same]
  exact each

/-! ### Bytes one after the other -/

theorem toList_eq_range (bytes : Array UInt8) :
    bytes.toList = (List.range bytes.size).map fun i => bytes.getD i 0 := by
  refine List.ext_getElem (by simp) ?_
  intro i inside _
  have stored : i < bytes.size := by simpa using inside
  simp [Array.getD_eq_getD_getElem?, stored]

theorem toList_ofFn (n : ℕ) (byte : ℕ → UInt8) :
    (Array.ofFn fun (i : Fin n) => byte i).toList = (List.range n).map byte := by
  refine List.ext_getElem (by simp) ?_
  intro i _ _
  simp

theorem flatMap_range (n k : ℕ) (byte : ℕ → UInt8) :
    ((List.range n).flatMap fun i => (List.range k).map fun j => byte (i * k + j)) =
      (List.range (n * k)).map byte := by
  rw [← range_mul, List.map_flatMap]
  refine List.flatMap_congr ?_
  intro i _
  rw [List.map_map]
  rfl

/-- The chunks of exactly `size` bytes. A shorter rest is left out. -/
def chunksOf (size : ℕ) (bytes : Array UInt8) : List (List UInt8) :=
  (Stretch.wholes size bytes.size).map fun s => (bytes.extract s.start (s.start + s.length)).toList

theorem chunksOf_eq {size n : ℕ} {bytes : Array UInt8} (pos : 0 < size)
    (whole : bytes.size = n * size) : chunksOf size bytes =
      (List.range n).map fun i => (List.range size).map fun k => bytes.getD (i * size + k) 0 := by
  rw [chunksOf, whole, Stretch.wholes_mul n pos, List.map_map]
  refine List.map_congr_left ?_
  intro i hi
  have inside : (i + 1) * size ≤ n * size := Nat.mul_le_mul_right _ (List.mem_range.1 hi)
  rw [Nat.succ_mul, ← whole] at inside
  exact Gpu.Device.toList_extract_eq inside

/-- The byte of a chunk, if it has so many. -/
def byteOf (chunk : List UInt8) (i : ℕ) : Except Trap UInt8 :=
  match chunk[i]? with
  | some byte => .ok byte
  | none => .error .outside

theorem byteOf_eq {size k : ℕ} (byte : ℕ → UInt8) (inside : k < size) :
    byteOf ((List.range size).map byte) k = .ok (byte k) := by
  simp [byteOf, inside]

/-! ### Stored frames -/

/-- What is stored of a frame. -/
structure StoredFrame where
  /-- The width and height. -/
  extent : Extent
  /-- The channels of a pixel. -/
  layout : PixelLayout
  /-- The bytes. -/
  bytes : Array UInt8
deriving DecidableEq, Repr

/-- What is stored of the frame. -/
def Frame.stored (f : Frame) : StoredFrame := ⟨f.extent, f.layout, f.bytes⟩

namespace StoredFrame

/-- The number of bytes of all pixels, by products that are checked. -/
def byteCount (extent : Extent) (layout : PixelLayout) : Except FrameError ℕ :=
  if extent.width = 0 ∨ extent.height = 0 then .error (.emptyExtent extent)
  else
    match Word.mul extent.width extent.height >>= fun area => Word.mul area layout.channels with
    | .ok count => .ok count
    | .error _ => .error .tooLarge

/-- A frame of the bytes, if there are as many as the pixels have. -/
def make (extent : Extent) (layout : PixelLayout) (bytes : Array UInt8) :
    Except FrameError StoredFrame := do
  let expected ← byteCount extent layout
  if bytes.size ≠ expected then .error (.wrongLength layout extent bytes.size)
  else .ok ⟨extent, layout, bytes⟩

/-- The bytes of a pixel, again and again. -/
def repeated (times : ℕ) (pixel : Array UInt8) : Array UInt8 :=
  ((List.replicate times pixel.toList).flatten).toArray

/-- A frame of one pixel, again and again. -/
def filled (extent : Extent) (layout : PixelLayout) (pixel : Array UInt8) :
    Except FrameError StoredFrame :=
  if pixel.size ≠ layout.channels then .error (.wrongFill layout pixel.size)
  else do
    let count ← byteCount extent layout
    make extent layout (repeated (count / layout.channels) pixel)

/-- A frame of a picture. -/
def ofPicture (p : Picture) : Except FrameError StoredFrame :=
  match p with
  | ⟨.luma8, extent, samples, _⟩ => make extent .gray samples
  | ⟨.rgb8, extent, samples, _⟩ => make extent .rgb samples
  | ⟨.rgba8, extent, samples, _⟩ => make extent .rgba samples
  | p => make p.extent .rgba p.rgbaBytes

/-- The colors of the pixels. -/
def toRgb (f : StoredFrame) : Except Trap StoredFrame := do
  let bytes ← match f.layout with
    | .rgb => pure f.bytes
    | .rgba => do
      let colors ← (chunksOf 4 f.bytes).mapM fun chunk => do
        return [← byteOf chunk 0, ← byteOf chunk 1, ← byteOf chunk 2]
      pure colors.flatten.toArray
    | .gray => pure (f.bytes.toList.flatMap fun gray => [gray, gray, gray]).toArray
  return ⟨f.extent, .rgb, bytes⟩

/-- The frame with the byte at a place replaced, if there is such a byte. -/
def setByte (f : StoredFrame) (place : ℕ) (value : UInt8) : StoredFrame :=
  { f with bytes := f.bytes.setIfInBounds place value }

/-- The frame that comes of recoloring: a buffer as long as the bytes of the source, after what is
written to it. -/
def recolored (source : StoredFrame) (writes : List Write) : Except FrameError StoredFrame :=
  make source.extent source.layout (Write.all source.bytes.size writes)

/-- The number of bytes of a row. -/
def stride (f : StoredFrame) : Except Trap ℕ := Word.mul f.extent.width f.layout.channels

/-- The bytes from one place up to another, if both are places of the bytes. -/
def slice? (f : StoredFrame) (start stop : ℕ) : Option (List UInt8) :=
  if start ≤ stop ∧ stop ≤ f.bytes.size then some (f.bytes.extract start stop).toList else none

/-- The channels of a pixel. -/
def pixel (f : StoredFrame) (x y : ℕ) : Except Trap (Option (List UInt8)) :=
  if f.extent.width ≤ x ∨ f.extent.height ≤ y then .ok none
  else do
    let row ← Word.mul y f.extent.width
    let place ← Word.add row x
    let start ← Word.mul place f.layout.channels
    let stop ← Word.add start f.layout.channels
    return f.slice? start stop

/-- Why there is no plane of a mask. -/
inductive NoPlane where
  /-- The mask does not have the channel. -/
  | mask (cause : MaskError)
  /-- The bytes are not taken as an image. -/
  | unfit
deriving DecidableEq, Repr

section

variable (fits : ℕ → Extent → ℕ → Bool)

/-- The chosen channel of a mask, as an image of one channel. -/
def plane (f : StoredFrame) (channel : Channel) : Except Trap (Except NoPlane (Array UInt8)) := do
  match f.layout with
  | .gray => return if fits 1 f.extent f.bytes.size then .ok f.bytes else .error .unfit
  | layout =>
    if layout.channels ≤ channel.plane then
      return .error (.mask (.missingChannel channel layout))
    else
      let bytes ← (chunksOf layout.channels f.bytes).mapM fun chunk => byteOf chunk channel.plane
      return if fits 1 f.extent bytes.length then .ok bytes.toArray else .error .unfit

/-- The frame as an image of the same bytes, if they are taken as one. -/
def toImage (f : StoredFrame) : Option StoredFrame :=
  if fits f.layout.channels f.extent f.bytes.size then some f else none

end

/-! ### What stored frames are made from -/

/-- Bytes are counted as they are for frames: the product of two sides is one of 64 bits. -/
theorem byteCount_eq (extent : Extent) (layout : PixelLayout) :
    byteCount extent layout = Frame.byteCount extent layout := by
  have sides : extent.width * extent.height < 2 ^ 64 :=
    Nat.lt_of_lt_of_eq (Nat.mul_lt_mul'' extent.width_lt extent.height_lt) (by decide)
  rw [byteCount, Frame.byteCount]
  by_cases empty : extent.width = 0 ∨ extent.height = 0
  · rw [if_pos empty, if_pos (show extent.IsEmpty from empty)]
  · rw [if_neg empty, if_neg (show ¬ extent.IsEmpty from empty), Word.mul_eq sides]
    by_cases large : 1 <<< 64 ≤ extent.area * layout.channels
    · have beyond : ¬ extent.width * extent.height * layout.channels < 2 ^ 64 := Nat.not_lt_of_le large
      rw [if_pos large]
      simp only [bind, Except.bind, Word.mul, if_neg beyond]
    · have small : extent.width * extent.height * layout.channels < 2 ^ 64 := Nat.lt_of_not_le large
      rw [if_neg large]
      simp only [bind, Except.bind, Word.mul_eq small]
      rfl

/-- A stored frame is made of bytes as a frame is. -/
theorem make_eq (extent : Extent) (layout : PixelLayout) (bytes : Array UInt8) :
    make extent layout bytes = (Frame.ofBytes extent layout bytes).map Frame.stored := by
  rw [make, byteCount_eq, Frame.byteCount, Frame.ofBytes]
  by_cases empty : extent.IsEmpty
  · rw [if_pos empty, dif_pos empty]
    rfl
  · rw [if_neg empty, dif_neg empty]
    by_cases large : 1 <<< 64 ≤ extent.area * layout.channels
    · rw [if_pos large, if_pos large]
      rfl
    · rw [if_neg large, if_neg large]
      by_cases size : bytes.size = extent.area * layout.channels
      · rw [dif_pos size]
        exact if_neg (not_not.2 size)
      · rw [dif_neg size]
        exact if_pos size

/-- A pixel that is repeated has its channels in turn. -/
theorem toList_repeated {pixel : Array UInt8} {channels : ℕ} (size : pixel.size = channels)
    (times : ℕ) : (repeated times pixel).toList =
      (List.range (times * channels)).map fun i => pixel.getD (i % channels) 0 := by
  have row (i : ℕ) : ((List.range channels).map fun j => pixel.getD ((i * channels + j) % channels) 0) =
      pixel.toList := by
    rw [toList_eq_range pixel, size]
    refine List.map_congr_left ?_
    intro j hj
    rw [place_mod i (List.mem_range.1 hj)]
  rw [← flatMap_range times channels fun i => pixel.getD (i % channels) 0]
  simp only [row]
  rw [List.flatMap_def, List.map_const', List.length_range]
  rfl

/-- A stored frame is filled as a frame is. -/
theorem filled_eq (extent : Extent) (layout : PixelLayout) (pixel : Array UInt8) :
    filled extent layout pixel = (Frame.filled extent layout pixel).map Frame.stored := by
  rw [filled, Frame.filled, byteCount_eq, Frame.byteCount]
  by_cases size : pixel.size = layout.channels
  · rw [if_neg (not_not.2 size), dif_pos size]
    by_cases empty : extent.IsEmpty
    · rw [if_pos empty, dif_pos empty]
      rfl
    · rw [if_neg empty, dif_neg empty]
      by_cases large : 1 <<< 64 ≤ extent.area * layout.channels
      · rw [if_pos large, if_pos large]
        rfl
      · rw [if_neg large, if_neg large]
        have pos := layout.channels_pos
        have bytes : repeated (extent.area * layout.channels / layout.channels) pixel =
            Array.ofFn fun (i : Fin (extent.area * layout.channels)) =>
              getElem pixel (i.val % layout.channels) (by rw [size]; exact Nat.mod_lt _ pos) := by
          rw [Nat.mul_div_cancel _ pos]
          refine Array.toList_inj.1 ?_
          rw [toList_repeated size, ← toList_ofFn]
          congr 2
          funext i
          have stored : i.val % layout.channels < pixel.size := by
            rw [size]
            exact Nat.mod_lt _ pos
          rw [Array.getD_eq_getD_getElem?, Array.getElem?_eq_getElem stored, Option.getD_some]
        change make extent layout (repeated (extent.area * layout.channels / layout.channels) pixel) = _
        rw [bytes, make_eq, Frame.ofBytes, dif_neg empty, if_neg large, dif_pos Array.size_ofFn]
  · rw [if_pos size, dif_neg size]
    rfl

theorem ofPicture_eq (p : Picture) :
    ofPicture p = (Frame.ofPicture p).map Frame.stored := by
  obtain ⟨layout, extent, samples, size⟩ := p
  cases layout <;> exact make_eq _ _ _

/-! ### What is computed of stored frames -/

variable {f : Frame}

theorem small_of_held (held : f.bytes.size < 2 ^ 63) :
    f.extent.area * f.layout.channels < 2 ^ 63 := by
  rw [← f.size_eq]
  exact held

theorem stride_stored (held : f.bytes.size < 2 ^ 63) : f.stored.stride = .ok f.stride := by
  have whole := small_of_held held
  have tall : 0 < f.extent.height := Nat.pos_of_ne_zero fun zero => f.nonempty (.inr zero)
  have row : f.extent.width * f.layout.channels ≤ f.extent.area * f.layout.channels :=
    Nat.mul_le_mul_right _ (Nat.le_mul_of_pos_right _ tall)
  show Word.mul f.extent.width f.layout.channels = _
  exact Word.mul_eq (by omega)

theorem place_le {x y : ℕ} (hx : x < f.extent.width) (hy : y < f.extent.height) :
    (y * f.extent.width + x) * f.layout.channels + f.layout.channels ≤ f.bytes.size := by
  have inside : (y * f.extent.width + x + 1) * f.layout.channels ≤
      f.extent.area * f.layout.channels := Nat.mul_le_mul_right _ (Extent.place_lt hx hy)
  rw [Nat.succ_mul, ← f.size_eq] at inside
  exact inside

/-- The pixel is that of the frame. -/
theorem pixel_stored (held : f.bytes.size < 2 ^ 63) (x y : ℕ) :
    f.stored.pixel x y = .ok (f.pixel? x y) := by
  rw [pixel, Frame.pixel?]
  by_cases inside : x < f.extent.width ∧ y < f.extent.height
  · have off : ¬ (f.extent.width ≤ x ∨ f.extent.height ≤ y) := by omega
    have stop := place_le inside.1 inside.2
    have pos := f.layout.channels_pos
    have place : y * f.extent.width + x ≤ (y * f.extent.width + x) * f.layout.channels :=
      Nat.le_mul_of_pos_right _ pos
    have row : Word.mul y f.extent.width = .ok (y * f.extent.width) := Word.mul_eq (by omega)
    have column : Word.add (y * f.extent.width) x = .ok (y * f.extent.width + x) :=
      Word.add_eq (by omega)
    have start : Word.mul (y * f.extent.width + x) f.layout.channels =
        .ok ((y * f.extent.width + x) * f.layout.channels) := Word.mul_eq (by omega)
    have finish : Word.add ((y * f.extent.width + x) * f.layout.channels) f.layout.channels =
        .ok ((y * f.extent.width + x) * f.layout.channels + f.layout.channels) :=
      Word.add_eq (by omega)
    rw [if_pos inside]
    refine (if_neg off).trans ?_
    simp only [Frame.stored, row, column, start, finish, bind, Except.bind, slice?, Frame.channels]
    exact congrArg Except.ok (if_pos ⟨Nat.le_add_right _ _, stop⟩)
  · have off : f.extent.width ≤ x ∨ f.extent.height ≤ y := by omega
    rw [if_neg inside]
    exact if_pos off

theorem toList_toRgb (f : Frame) : f.toRgb.bytes.toList =
    (List.range (f.extent.area * 3)).map fun i => f.bytes.getD (Frame.colorPlace f.layout i) 0 := by
  rw [← toList_ofFn]
  refine congrArg Array.toList (congrArg Array.ofFn (funext fun i => ?_))
  have stored : Frame.colorPlace f.layout i < f.bytes.size := by
    rw [f.size_eq]
    exact Frame.colorPlace_lt f.layout i.isLt
  rw [Array.getD_eq_getD_getElem?, Array.getElem?_eq_getElem stored, Option.getD_some]

/-- Red, green and blue are read from the chunks of a frame with alpha. -/
theorem mapM_colors {bytes : Array UInt8} {n : ℕ} (size : bytes.size = n * 4) :
    (chunksOf 4 bytes).mapM (fun chunk => do
      return [← byteOf chunk 0, ← byteOf chunk 1, ← byteOf chunk 2]) =
      .ok ((List.range n).map fun i => (List.range 3).map fun k =>
        bytes.getD (Frame.colorPlace .rgba (i * 3 + k)) 0) := by
  rw [chunksOf_eq (by decide) size]
  refine mapM_ok ?_
  intro i _
  have place {k : ℕ} (inside : k < 3) : Frame.colorPlace .rgba (i * 3 + k) = i * 4 + k := by
    rw [Frame.colorPlace]
    omega
  rw [byteOf_eq _ (by decide), byteOf_eq _ (by decide), byteOf_eq _ (by decide)]
  simp only [List.range, List.range.loop, List.map_cons, List.map_nil, place (Nat.zero_lt_succ 2),
    place (Nat.one_lt_succ_succ 1), place (Nat.lt_succ_self 2)]
  rfl

theorem colors_gray (bytes : Array UInt8) (i : ℕ) :
    ((List.range 3).map fun k => bytes.getD (Frame.colorPlace .gray (i * 3 + k)) 0) =
      [bytes.getD i 0, bytes.getD i 0, bytes.getD i 0] := by
  have place {k : ℕ} (inside : k < 3) : Frame.colorPlace .gray (i * 3 + k) = i := by
    rw [Frame.colorPlace]
    omega
  simp only [List.range, List.range.loop, List.map_cons, List.map_nil, place (Nat.zero_lt_succ 2),
    place (Nat.one_lt_succ_succ 1), place (Nat.lt_succ_self 2)]

/-- The colors are those of the frame. -/
theorem toRgb_stored (f : Frame) : f.stored.toRgb = .ok f.toRgb.stored := by
  have bytes {list : List UInt8} (same : list = f.toRgb.bytes.toList) :
      (⟨f.extent, .rgb, list.toArray⟩ : StoredFrame) = f.toRgb.stored := by
    rw [same]
    rfl
  have colors := toList_toRgb f
  obtain ⟨extent, layout, stored, nonempty, size⟩ := f
  cases layout with
  | rgb =>
    refine congrArg Except.ok (bytes ?_)
    rw [colors]
    exact (toList_eq_range stored).trans (by rw [size]; rfl)
  | rgba =>
    refine Eq.trans ?_ (congrArg Except.ok (bytes colors.symm))
    rw [← flatMap_range, List.flatMap_def]
    change ((chunksOf 4 stored).mapM _ >>= _) = _
    rw [mapM_colors size]
    rfl
  | gray =>
    refine congrArg Except.ok (bytes ?_)
    rw [colors, ← flatMap_range]
    change stored.toList.flatMap _ = _
    rw [toList_eq_range stored, size, List.flatMap_map, PixelLayout.channels, Nat.mul_one]
    exact List.flatMap_congr fun i _ => (colors_gray stored i).symm

/-- A library takes buffers that are long enough for pixels, if the length they need is a number of
64 bits. -/
def Takes (fits : ℕ → Extent → ℕ → Bool) : Prop :=
  ∀ channels extent length, ¬ extent.IsEmpty → extent.area * channels < 2 ^ 64 →
    extent.area * channels ≤ length → fits channels extent length = true

variable {fits : ℕ → Extent → ℕ → Bool}

theorem mapM_byteOf {k : ℕ} (inside : k < f.layout.channels) :
    (chunksOf f.layout.channels f.bytes).mapM (fun chunk => byteOf chunk k) =
      .ok ((List.range f.extent.area).map fun i => f.bytes.getD (i * f.layout.channels + k) 0) := by
  rw [chunksOf_eq f.layout.channels_pos f.size_eq]
  refine mapM_ok ?_
  intro i _
  exact byteOf_eq _ inside

/-- The plane of a gray frame is its bytes. -/
theorem plane_gray (gray : f.layout = .gray) (channel : Channel) :
    (f.plane channel).map Plane.bytes = .ok f.bytes := by
  have has : maskPlane channel f.layout = .ok 0 := by
    rw [gray]
    rfl
  have size : f.bytes.size = f.extent.area := by
    rw [f.size_eq, gray]
    exact Nat.mul_one _
  rw [Frame.plane_eq has]
  refine congrArg Except.ok (Array.toList_inj.1 ?_)
  change (Array.ofFn _).toList = _
  rw [toList_ofFn f.extent.area fun i => f.bytes.getD (i * f.layout.channels + 0) 0, gray,
    toList_eq_range f.bytes, size]
  simp [PixelLayout.channels]

theorem maskPlane_of_ne_gray {layout : PixelLayout} (colored : layout ≠ .gray) (channel : Channel) :
    maskPlane channel layout =
      if layout.channels ≤ channel.plane then .error (.missingChannel channel layout)
      else .ok channel.plane := by
  cases layout with
  | gray => exact absurd rfl colored
  | rgb | rgba => rfl

/-- Of more channels than one, the chosen one is read from the chunks. -/
theorem plane_of_ne_gray {f : StoredFrame} (colored : f.layout ≠ .gray) (channel : Channel) :
    f.plane fits channel =
      if f.layout.channels ≤ channel.plane then
        .ok (.error (.mask (.missingChannel channel f.layout)))
      else (chunksOf f.layout.channels f.bytes).mapM (fun chunk => byteOf chunk channel.plane) >>=
        fun bytes => .ok (if fits 1 f.extent bytes.length then .ok bytes.toArray
          else .error .unfit) := by
  obtain ⟨extent, layout, bytes⟩ := f
  cases layout with
  | gray => exact absurd rfl colored
  | rgb | rgba => rfl

/-- The plane is that of the frame, and is taken as an image. -/
theorem plane_stored (takes : Takes fits) (held : f.bytes.size < 2 ^ 63) (channel : Channel) :
    f.stored.plane fits channel =
      .ok (((f.plane channel).map Plane.bytes).mapError .mask) := by
  have whole := small_of_held held
  have area : f.extent.area * 1 ≤ f.extent.area * f.layout.channels :=
    Nat.mul_le_mul_left _ f.layout.channels_pos
  have taken {length : ℕ} (long : f.extent.area * 1 ≤ length) : fits 1 f.extent length = true :=
    takes 1 f.extent length f.nonempty (by omega) long
  by_cases gray : f.layout = .gray
  · have same : f.extent.area * 1 ≤ f.bytes.size := by
      rw [f.size_eq]
      exact area
    rw [plane_gray gray]
    simp only [plane, Frame.stored, gray, if_pos (taken same)]
    rfl
  · have chosen : f.stored.plane fits channel = _ := plane_of_ne_gray gray channel
    have read := maskPlane_of_ne_gray gray channel
    by_cases lacks : f.layout.channels ≤ channel.plane
    · rw [if_pos lacks] at read
      obtain ⟨cause, missing, failed⟩ | ⟨_, _, has, -⟩ := f.plane_cases channel
      · rw [read] at missing
        cases missing
        rw [chosen, failed]
        exact if_pos lacks
      · rw [read] at has
        cases has
    · rw [if_neg lacks] at read
      refine chosen.trans ((if_neg lacks).trans ?_)
      have bytes := mapM_byteOf (Nat.lt_of_not_le lacks)
      rw [show (chunksOf f.stored.layout.channels f.stored.bytes).mapM
        (fun chunk => byteOf chunk channel.plane) = _ from bytes, Frame.plane_eq read]
      refine congrArg Except.ok ?_
      refine (if_pos (taken (by simp))).trans (congrArg Except.ok (Array.toList_inj.1 ?_))
      exact (toList_ofFn f.extent.area
        fun i => f.bytes.getD (i * f.layout.channels + channel.plane) 0).symm

theorem toImage_stored (takes : Takes fits) (held : f.bytes.size < 2 ^ 63) :
    f.stored.toImage fits = some f.stored := by
  have whole := small_of_held held
  exact if_pos (takes _ _ _ f.nonempty (by omega) (Nat.le_of_eq f.size_eq.symm))

theorem make_stored (held : f.bytes.size < 2 ^ 63) :
    make f.extent f.layout f.bytes = .ok f.stored := by
  rw [make_eq, Frame.ofBytes_self f (show f.bytes.size < 1 <<< 64 by omega)]
  rfl

theorem recolored_stored (held : f.bytes.size < 2 ^ 63) (writes : List Write) :
    ∃ g : Frame, f.stored.recolored writes = .ok g.stored ∧ g.bytes.size < 2 ^ 63 := by
  have size := Write.size_all f.bytes.size writes
  let g : Frame := ⟨f.extent, f.layout, Write.all f.bytes.size writes, f.nonempty,
    size.trans f.size_eq⟩
  have kept : g.bytes.size < 2 ^ 63 := size.trans_lt held
  exact ⟨g, make_stored kept, kept⟩

/-- The pixels of a frame, row by row, are its bytes. -/
theorem flatMap_pixels (f : Frame) :
    ((List.range f.extent.height).flatMap fun y =>
      (List.range f.extent.width).flatMap fun x => (f.pixel? x y).getD []) = f.bytes.toList := by
  have rows : ((List.range f.extent.height).flatMap fun y =>
      (List.range f.extent.width).flatMap fun x => (f.pixel? x y).getD []) =
      (List.range (f.extent.height * f.extent.width)).flatMap fun i =>
        (List.range f.layout.channels).map fun k => f.bytes.getD (i * f.layout.channels + k) 0 := by
    rw [← range_mul, List.flatMap_assoc]
    refine List.flatMap_congr ?_
    intro y hy
    rw [List.flatMap_map]
    refine List.flatMap_congr ?_
    intro x hx
    rw [f.pixel?_eq (List.mem_range.1 hx) (List.mem_range.1 hy), Option.getD_some]
  rw [rows, flatMap_range _ _ fun i => f.bytes.getD i 0, toList_eq_range f.bytes, f.size_eq,
    Nat.mul_comm f.extent.height]
  rfl

/-! ### What can come about -/

/-- The stored frames that can come about. No buffer has `2 ^ 63` bytes or more. -/
inductive Obtained (fits : ℕ → Extent → ℕ → Bool) : StoredFrame → Prop where
  /-- From bytes, such as those that are read back from a device. -/
  | made {extent : Extent} {layout : PixelLayout} {bytes : Array UInt8} {f : StoredFrame}
    (made : make extent layout bytes = .ok f) (held : f.bytes.size < 2 ^ 63) : Obtained fits f
  /-- From one pixel. -/
  | filled {extent : Extent} {layout : PixelLayout} {pixel : Array UInt8} {f : StoredFrame}
    (made : filled extent layout pixel = .ok f) (held : f.bytes.size < 2 ^ 63) : Obtained fits f
  /-- From a picture. -/
  | ofPicture {p : Picture} {f : StoredFrame} (made : ofPicture p = .ok f)
    (held : f.bytes.size < 2 ^ 63) : Obtained fits f
  /-- From the colors of a frame. -/
  | toRgb {f g : StoredFrame} (obtained : Obtained fits f) (made : f.toRgb = .ok g)
    (held : g.bytes.size < 2 ^ 63) : Obtained fits g
  /-- By replacing a byte. -/
  | setByte {f : StoredFrame} (obtained : Obtained fits f) (place : ℕ) (value : UInt8) :
    Obtained fits (f.setByte place value)
  /-- By recoloring, whatever is written. -/
  | recolored {source f : StoredFrame} (obtained : Obtained fits source) (writes : List Write)
    (made : source.recolored writes = .ok f) : Obtained fits f
  /-- From the image of a frame. -/
  | imaged {f image g : StoredFrame} (obtained : Obtained fits f)
    (taken : f.toImage fits = some image)
    (made : make image.extent image.layout image.bytes = .ok g) : Obtained fits g

theorem exists_of_map {made : Except FrameError Frame} {f : StoredFrame}
    (stored : made.map Frame.stored = .ok f) : ∃ g : Frame, g.stored = f := by
  cases made with
  | error cause => cases stored
  | ok g => exact ⟨g, Except.ok.inj stored⟩

/-- **Every stored frame that can come about is what is stored of a frame.** -/
theorem Obtained.exists_frame (takes : Takes fits) {f : StoredFrame} (h : Obtained fits f) :
    ∃ g : Frame, g.stored = f ∧ g.bytes.size < 2 ^ 63 := by
  have known {f : StoredFrame} (frame : ∃ g : Frame, g.stored = f) (held : f.bytes.size < 2 ^ 63) :
      ∃ g : Frame, g.stored = f ∧ g.bytes.size < 2 ^ 63 := by
    obtain ⟨g, rfl⟩ := frame
    exact ⟨g, rfl, held⟩
  induction h with
  | made made held =>
    rw [make_eq] at made
    exact known (exists_of_map made) held
  | filled made held =>
    rw [filled_eq] at made
    exact known (exists_of_map made) held
  | ofPicture made held =>
    rw [ofPicture_eq] at made
    exact known (exists_of_map made) held
  | toRgb _ made held ih =>
    obtain ⟨g, rfl, -⟩ := ih
    rw [toRgb_stored, Except.ok.injEq] at made
    exact known ⟨g.toRgb, made⟩ held
  | setByte _ place value ih =>
    obtain ⟨g, rfl, held⟩ := ih
    refine ⟨g.setByte place value, rfl, ?_⟩
    rw [Frame.setByte, Array.size_setIfInBounds]
    exact held
  | recolored _ writes made ih =>
    obtain ⟨g, rfl, held⟩ := ih
    obtain ⟨out, written, kept⟩ := recolored_stored held writes
    rw [written, Except.ok.injEq] at made
    exact ⟨out, made, kept⟩
  | imaged _ taken made ih =>
    obtain ⟨g, rfl, held⟩ := ih
    rw [toImage_stored takes held, Option.some.injEq] at taken
    subst taken
    exact ⟨g, Except.ok.inj ((make_stored held).symm.trans made), held⟩

/-- What an engine makes of a frame comes about by recoloring. -/
theorem Obtained.recolor (takes : Takes fits) {e : CpuEngine} {source out : Frame}
    {mask : Option Frame} (obtained : Obtained fits source.stored)
    (done : e.recolor source mask = .ok (some out)) : Obtained fits out.stored := by
  obtain ⟨g, same, kept⟩ := obtained.exists_frame takes
  have held : source.bytes.size < 2 ^ 63 := by
    rw [show source.bytes = g.bytes from congrArg StoredFrame.bytes same.symm]
    exact kept
  have outcome := CpuEngine.recolor_outcome e source mask
  rw [done] at outcome
  cases outcome with
  | @output _ weights opened rgb known =>
    have written : (Tint.recolored source weights e.settings.scaledTarget).bytes.size < 2 ^ 63 :=
      (Write.size_all _ _).trans_lt held
    exact obtained.recolored (rowWrites source weights e.settings.scaledTarget
      (rowJobs source weights)) (make_stored written)

/-- **What is true of a stored frame.** -/
structure Sound (fits : ℕ → Extent → ℕ → Bool) (f : StoredFrame) : Prop where
  /-- No side is zero. -/
  sides : f.extent.width ≠ 0 ∧ f.extent.height ≠ 0
  /-- The bytes are those of the pixels. -/
  size : f.bytes.size = f.extent.width * f.extent.height * f.layout.channels
  /-- There is a pixel at exactly the places inside the frame, and the pixels are the bytes. -/
  pixels : ∃ channels : ℕ → ℕ → List UInt8,
    (∀ x y, f.pixel x y = .ok (if x < f.extent.width ∧ y < f.extent.height then
      some (channels x y) else none)) ∧
    ((List.range f.extent.height).flatMap fun y =>
      (List.range f.extent.width).flatMap fun x => channels x y) = f.bytes.toList
  /-- The length of a row is computed. -/
  stride : f.stride = .ok (f.extent.width * f.layout.channels)
  /-- The colors are computed. -/
  colors : ∃ g, f.toRgb = .ok g
  /-- Planes are computed, and taken as images. -/
  plane : ∀ channel, ∃ answer, f.plane fits channel = .ok answer ∧ answer ≠ .error .unfit
  /-- The frame is taken as an image. -/
  image : f.toImage fits = some f

/-- **Stored frames are sound**, whatever they were made from. -/
theorem Obtained.sound (takes : Takes fits) {f : StoredFrame} (h : Obtained fits f) :
    f.Sound fits := by
  obtain ⟨g, rfl, held⟩ := h.exists_frame takes
  refine ⟨?_, g.size_eq, ⟨fun x y => (g.pixel? x y).getD [], ?_, flatMap_pixels g⟩,
    stride_stored held, ⟨_, toRgb_stored g⟩, ?_, toImage_stored takes held⟩
  · exact ⟨fun zero => g.nonempty (.inl zero), fun zero => g.nonempty (.inr zero)⟩
  · intro x y
    rw [pixel_stored held]
    refine congrArg Except.ok ?_
    show g.pixel? x y = if x < g.extent.width ∧ y < g.extent.height then
      some ((g.pixel? x y).getD []) else none
    by_cases inside : x < g.extent.width ∧ y < g.extent.height
    · rw [if_pos inside, g.pixel?_eq inside.1 inside.2, Option.getD_some]
    · rw [if_neg inside, Frame.pixel?, if_neg inside]
  · intro channel
    refine ⟨_, plane_stored takes held channel, ?_⟩
    intro unfit
    cases answer : g.plane channel <;> rw [answer] at unfit <;> cases unfit

/-- Whether a buffer is long enough, by products that are checked. -/
def longEnough (channels : ℕ) (extent : Extent) (length : ℕ) : Bool :=
  match Word.mul channels extent.width >>= fun row => Word.mul row extent.height with
  | .ok count => count ≤ length
  | .error _ => false

theorem takes_longEnough : Takes longEnough := by
  intro channels extent length filled small long
  have tall : 0 < extent.height := Nat.pos_of_ne_zero fun zero => filled (.inr zero)
  have whole : channels * extent.width * extent.height = extent.area * channels := by
    rw [Extent.area, Nat.mul_assoc, Nat.mul_comm]
  have row : channels * extent.width ≤ channels * extent.width * extent.height :=
    Nat.le_mul_of_pos_right _ tall
  rw [longEnough, Word.mul_eq (show channels * extent.width < 2 ^ 64 by omega)]
  simp only [bind, Except.bind, Word.mul_eq (whole.trans_lt small), whole]
  exact decide_eq_true long

/-- Two pixels, of which the lower one is changed, are sound. -/
theorem Obtained.sound_edited : (CpuEngine.column.stored.setByte 3 7).Sound longEnough :=
  Obtained.sound takes_longEnough
    (.setByte (.made (make_stored (show CpuEngine.column.bytes.size < 2 ^ 63 by decide)) (by decide)) 3 7)

end StoredFrame

end Tint
