import Tint.Formats.Raster
import Tint.Proofs.Storage

/-!
# Pictures, frames and their colors

A picture becomes a frame, a frame becomes a picture, and a frame is reduced to its colors. On
the way samples are regrouped: gray is read three times, alpha is made up or left out, samples of
two and four bytes are reduced to one. What is seen stays the same. The colors of a pixel depend
on the color samples of that pixel only, in whatever layout they come, and the colors of the
colors are the colors again.

## The model

* `PixelLayout.colors` are the colors of one pixel, from its channels.
* `Picture.color?` is the color of a pixel of a picture: the samples that it is read from, each
  reduced to a byte. `PictureLayout.IsAlpha` says which samples are not read.
* `Picture.Held` says that the samples of a picture are held in memory.

## What is proved

* `Frame.pixel?_toRgb` and `Frame.pixel?_ofPicture`: what is seen at a pixel.
* `Frame.exists_ofPicture_iff`: a picture has a frame exactly if it is not empty.
* `Frame.conversions_keep_colors`: all of it, for every frame and every picture.
-/

namespace Tint

/-- The channel of a pixel that red, green or blue is read from. Gray is read as all three. -/
def PixelLayout.colorChannel (l : PixelLayout) (c : ℕ) : ℕ := if l.channels < 3 then 0 else c

/-- The colors of a pixel: gray three times, or the first three channels. -/
def PixelLayout.colors : PixelLayout → List UInt8 → List UInt8
  | gray, pixel => pixel.flatMap fun g => [g, g, g]
  | rgb, pixel | rgba, pixel => pixel.take 3

namespace PictureLayout

/-- The sample of a pixel that red, green or blue is read from. Gray is read as all three. -/
def colorSample (l : PictureLayout) (c : ℕ) : ℕ := if l.samples < 3 then 0 else c

/-- The sample is the alpha of its pixel: the last one of two or four. -/
def IsAlpha (l : PictureLayout) (i : ℕ) : Prop := l.samples % 2 = 0 ∧ i % l.samples + 1 = l.samples

theorem colorSample_lt (l : PictureLayout) {c : ℕ} (color : c < 3) :
    l.colorSample c < l.samples := by
  cases l <;> simp [colorSample, samples] <;> omega

theorem not_isAlpha (l : PictureLayout) (i : ℕ) {c : ℕ} (color : c < 3) :
    ¬ l.IsAlpha (i * l.samples + l.colorSample c) := by
  rw [IsAlpha, place_mod i (l.colorSample_lt color)]
  cases l <;> simp [colorSample, samples] <;> omega

theorem channelSample?_eq (l : PictureLayout) {c : ℕ} (color : c < 3) :
    l.channelSample? c = some (l.colorSample c) := by
  cases l <;> simp [channelSample?, colorSample, samples, color]

end PictureLayout

/-! ### Frames and their colors -/

namespace Frame

theorem toRgb_eq_self {f : Frame} (rgb : f.layout = .rgb) : f.toRgb = f := by
  refine eq_of_bytes rfl rgb.symm ?_
  have size : f.bytes.size = f.extent.area * 3 := by rw [f.size_eq, rgb]; rfl
  rw [toRgb_bytes, rgb]
  refine Array.ext (by rw [Array.size_ofFn, size]) ?_
  intro i _ inside
  rw [Array.getElem_ofFn, Array.getD_eq_getD_getElem?]
  show (getElem? f.bytes i).getD 0 = _
  rw [Array.getElem?_eq_getElem inside, Option.getD_some]

theorem colorPlace_eq (l : PixelLayout) (i : ℕ) {c : ℕ} (color : c < 3) :
    colorPlace l (i * 3 + c) = i * l.channels + l.colorChannel c := by
  cases l <;> simp only [colorPlace, PixelLayout.channels, PixelLayout.colorChannel] <;> simp <;>
    omega

theorem pixel?_toRgb_eq (f : Frame) {x y : ℕ} (hx : x < f.extent.width) (hy : y < f.extent.height) :
    f.toRgb.pixel? x y = some ((List.range 3).map fun c =>
      f.bytes.getD ((y * f.extent.width + x) * f.layout.channels + f.layout.colorChannel c) 0) := by
  refine (f.toRgb.pixel?_eq hx hy).trans (congrArg some (List.map_congr_left ?_))
  intro c hc
  have color := List.mem_range.1 hc
  have place : (y * f.extent.width + x) * 3 + c < f.extent.area * 3 :=
    planePlace_lt (Extent.place_lt hx hy) color
  show f.toRgb.bytes.getD ((y * f.extent.width + x) * 3 + c) 0 = _
  rw [toRgb_bytes, Array.getD_eq_getD_getElem?, Array.getElem?_ofFn, dif_pos place,
    Option.getD_some]
  show f.bytes.getD (colorPlace f.layout ((y * f.extent.width + x) * 3 + c)) 0 = _
  rw [colorPlace_eq f.layout _ color]

/-- **The colors of a frame are those of its pixels**, each for itself. -/
theorem pixel?_toRgb (f : Frame) (x y : ℕ) :
    f.toRgb.pixel? x y = (f.pixel? x y).map f.layout.colors := by
  by_cases inside : x < f.extent.width ∧ y < f.extent.height
  · rw [f.pixel?_toRgb_eq inside.1 inside.2, f.pixel?_eq inside.1 inside.2, Option.map_some]
    refine congrArg some ?_
    cases f.layout <;> rfl
  · rw [show f.pixel? x y = none from if_neg inside]
    exact if_neg inside

theorem eq_of_pixels {f g : Frame} (extent : f.extent = g.extent) (layout : f.layout = g.layout)
    (pixels : ∀ x y, f.pixel? x y = g.pixel? x y) : f = g := by
  refine eq_of_bytes extent layout (Array.toList_inj.1 ?_)
  rw [← StoredFrame.flatMap_pixels f, ← StoredFrame.flatMap_pixels g, extent]
  simp only [pixels]

end Frame

/-! ### Pictures and their colors -/

namespace Picture

/-- The samples of the picture are held in a buffer: they have less than `2 ^ 63` bytes, as all
that is held in memory has. -/
def Held (p : Picture) : Prop := p.extent.area * p.layout.bytes < 2 ^ 63

/-- A sample in bytes, if the picture has so many. -/
def shown? (p : Picture) (i : ℕ) : Option UInt8 := p.samples[i]?.map p.layout.depth.toByte

/-- The color of a pixel: the samples that it is read from, in bytes. -/
def color? (p : Picture) (x y : ℕ) : Option (List UInt8) :=
  if x < p.extent.width ∧ y < p.extent.height then
    let start := (y * p.extent.width + x) * p.layout.samples
    [0, 1, 2].mapM fun c => p.shown? (start + p.layout.colorSample c)
  else none

theorem shown?_eq {p : Picture} {i : ℕ} (inside : i < p.samples.size) :
    p.shown? i = some (p.byteAt (some i)) := by
  rw [shown?, byteAt_some, Array.getElem?_eq_getElem inside]
  rfl

theorem color?_congr {p : Picture} {samples : Array p.layout.depth.Sample}
    (size : samples.size = p.extent.area * p.layout.samples)
    (same : ∀ i, ¬ p.layout.IsAlpha i → samples[i]? = p.samples[i]?) (x y : ℕ) :
    (⟨p.layout, p.extent, samples, size⟩ : Picture).color? x y = p.color? x y := by
  have shown {c : ℕ} (color : c < 3) :
      (⟨p.layout, p.extent, samples, size⟩ : Picture).shown?
        ((y * p.extent.width + x) * p.layout.samples + p.layout.colorSample c) =
      p.shown? ((y * p.extent.width + x) * p.layout.samples + p.layout.colorSample c) :=
    congrArg (Option.map _) (same _ (p.layout.not_isAlpha _ color))
  simp only [color?, List.mapM_cons, List.mapM_nil, shown (show 0 < 3 by decide),
    shown (show 1 < 3 by decide), shown (show 2 < 3 by decide)]

end Picture

namespace Frame

theorem ofBytes_ok {extent : Extent} {layout : PixelLayout} {bytes : Array UInt8}
    (nonempty : ¬ extent.IsEmpty) (size : bytes.size = extent.area * layout.channels)
    (small : bytes.size < 2 ^ 64) : ofBytes extent layout bytes =
      .ok ⟨extent, layout, bytes, nonempty, size⟩ :=
  ofBytes_self ⟨extent, layout, bytes, nonempty, size⟩ small

theorem of_ofBytes {extent : Extent} {layout : PixelLayout} {bytes : Array UInt8} {f : Frame}
    (made : ofBytes extent layout bytes = .ok f) :
    f.extent = extent ∧ f.layout = layout ∧ f.bytes = bytes := by
  rw [ofBytes] at made
  split at made
  · cases made
  · split at made
    · cases made
    · split at made
      · cases made
        exact ⟨rfl, rfl, rfl⟩
      · cases made

/-- A frame of a picture has the samples of the picture for its bytes, or the picture as color
with alpha. -/
theorem ofPicture_cases {p : Picture} {f : Frame} (made : ofPicture p = .ok f) :
    f.toPicture = p ∨ f.extent = p.extent ∧ f.layout = .rgba ∧ f.bytes = p.rgbaBytes := by
  obtain ⟨layout, extent, samples, size⟩ := p
  obtain ⟨extent', layout', bytes, nonempty, size'⟩ := f
  cases layout with
  | luma8 | rgb8 | rgba8 =>
    obtain ⟨rfl, rfl, rfl⟩ := of_ofBytes made
    exact .inl rfl
  | lumaA8 | luma16 | lumaA16 | rgb16 | rgba16 | rgb32F | rgba32F => exact .inr (of_ofBytes made)

theorem ofPicture_extent {p : Picture} {f : Frame} (made : ofPicture p = .ok f) :
    f.extent = p.extent := by
  obtain rfl | ⟨same, -⟩ := ofPicture_cases made
  · exact f.toPicture_extent.symm
  · exact same

/-- **A picture that is held in memory has a frame exactly if it is not empty.** -/
theorem exists_ofPicture_iff {p : Picture} (held : p.Held) :
    (∃ f, ofPicture p = .ok f) ↔ ¬ p.extent.IsEmpty := by
  constructor
  · rintro ⟨f, made⟩
    rw [← ofPicture_extent made]
    exact f.nonempty
  · intro nonempty
    have kept : ∀ {layout : PixelLayout} {bytes : Array UInt8},
        bytes.size = p.extent.area * layout.channels → bytes.size < 2 ^ 64 →
          ∃ f, ofBytes p.extent layout bytes = .ok f :=
      fun size small => ⟨_, ofBytes_ok nonempty size small⟩
    have converted : p.rgbaBytes.size = p.extent.area * 4 := Array.size_ofFn
    obtain ⟨layout, extent, samples, size⟩ := p
    dsimp only [Picture.Held] at held size converted
    cases layout with
    | luma8 | rgb8 | rgba8 =>
      refine kept size ?_
      simp only [PictureLayout.bytes, PictureLayout.samples] at held size
      omega
    -- A pixel of any other layout has at least two bytes, and becomes four.
    | lumaA8 | luma16 | lumaA16 | rgb16 | rgba16 | rgb32F | rgba32F =>
      refine kept converted ?_
      simp only [PictureLayout.bytes, PictureLayout.samples] at held
      omega

/-- The colors of a frame are read from the color samples of its picture. -/
theorem getD_ofPicture {p : Picture} {f : Frame} (made : ofPicture p = .ok f) {i c : ℕ}
    (inside : i < p.extent.area) (color : c < 3) :
    f.bytes.getD (i * f.layout.channels + f.layout.colorChannel c) 0 =
      p.byteAt (some (i * p.layout.samples + p.layout.colorSample c)) := by
  obtain rfl | ⟨-, layout, bytes⟩ := ofPicture_cases made
  · have sample := f.toPicture.layout.colorSample_lt color
    rw [PictureLayout.colorSample, f.toPicture_samples] at sample ⊢
    rw [f.toPicture_extent] at inside
    have stored := planePlace_lt inside sample
    rw [← f.size_eq] at stored
    exact (toPicture_byteAt stored).symm
  · have read := Picture.getD_rgbaBytes inside (show c < 4 by omega)
    rw [p.layout.channelSample?_eq color, Option.map_some] at read
    rw [layout, bytes]
    exact read

/-- **The colors of the frame of a picture are those of the picture.** -/
theorem pixel?_ofPicture {p : Picture} {f : Frame} (made : ofPicture p = .ok f) (x y : ℕ) :
    f.toRgb.pixel? x y = p.color? x y := by
  have extent := ofPicture_extent made
  rw [Picture.color?, ← extent]
  by_cases inside : x < f.extent.width ∧ y < f.extent.height
  · have place := Extent.place_lt inside.1 inside.2
    rw [extent] at place
    have shown {c : ℕ} (color : c < 3) :
        p.shown? ((y * f.extent.width + x) * p.layout.samples + p.layout.colorSample c) =
          some (f.bytes.getD
            ((y * f.extent.width + x) * f.layout.channels + f.layout.colorChannel c) 0) := by
      have stored := planePlace_lt place (p.layout.colorSample_lt color)
      rw [← p.size_eq] at stored
      rw [extent, Picture.shown?_eq stored, getD_ofPicture made place color]
    rw [f.pixel?_toRgb_eq inside.1 inside.2, if_pos inside]
    simp only [List.mapM_cons, List.mapM_nil, shown (show 0 < 3 by decide),
      shown (show 1 < 3 by decide), shown (show 2 < 3 by decide)]
    rfl
  · rw [if_neg inside]
    exact if_neg inside

/-- **Conversions keep what is seen.** A frame becomes a picture, which is not refused, and is
read back as it was. Its colors are those of its pixels, and taking them once more changes
nothing; taken chunk by chunk they are the same. A picture that is not empty has a frame of its
size, which has the color samples of the picture for its colors, so that alpha does not matter. The
bytes of both are as many as a memory can hold, and no buffer has more. -/
theorem conversions_keep_colors :
    (∀ f : Frame, f.bytes.size < 2 ^ 63 →
      (∀ fits, StoredFrame.Takes fits → f.stored.toImage fits = some f.stored) ∧
        ofPicture f.toPicture = .ok f) ∧
    (∀ f : Frame, f.toRgb.extent = f.extent ∧ f.toRgb.layout = .rgb ∧
      (∀ x y, f.toRgb.pixel? x y = (f.pixel? x y).map f.layout.colors) ∧
      f.toRgb.toRgb = f.toRgb ∧ f.stored.toRgb = .ok f.toRgb.stored) ∧
    ∀ p : Picture, p.Held → ¬ p.extent.IsEmpty → ∃ f, ofPicture p = .ok f ∧
      f.extent = p.extent ∧ (∀ x y, f.toRgb.pixel? x y = p.color? x y) ∧
      ∀ (samples : Array p.layout.depth.Sample)
        (size : samples.size = p.extent.area * p.layout.samples),
        (∀ i, ¬ p.layout.IsAlpha i → samples[i]? = p.samples[i]?) →
          ∃ g, ofPicture ⟨p.layout, p.extent, samples, size⟩ = .ok g ∧ g.toRgb = f.toRgb := by
  refine ⟨?_, ?_, ?_⟩
  · intro f held
    exact ⟨fun fits takes => StoredFrame.toImage_stored takes held,
      ofPicture_toPicture f (show f.bytes.size < 1 <<< 64 by omega)⟩
  · intro f
    exact ⟨rfl, rfl, f.pixel?_toRgb, toRgb_eq_self rfl, StoredFrame.toRgb_stored f⟩
  · intro p held nonempty
    obtain ⟨f, made⟩ := (exists_ofPicture_iff held).2 nonempty
    refine ⟨f, made, ofPicture_extent made, pixel?_ofPicture made, ?_⟩
    intro samples size same
    let q : Picture := ⟨p.layout, p.extent, samples, size⟩
    obtain ⟨g, made'⟩ := (exists_ofPicture_iff (p := q) held).2 nonempty
    refine ⟨g, made', eq_of_pixels ?_ rfl ?_⟩
    · exact (ofPicture_extent made').trans (ofPicture_extent made).symm
    · intro x y
      rw [pixel?_ofPicture made', pixel?_ofPicture made, Picture.color?_congr size same]

/-- Two gray pixels in words, the lower one almost transparent. -/
def grayWords : Picture := ⟨.lumaA16, CpuEngine.column.extent, #[51400, 65535, 25700, 9], rfl⟩

/-- The lower pixel is gray, whatever its alpha, and its colors are read back. -/
theorem conversions_keep_colors_grayWords :
    ∃ f, ofPicture grayWords = .ok f ∧ f.toRgb.pixel? 0 1 = some [100, 100, 100] ∧
      f.toRgb.toRgb = f.toRgb ∧ ofPicture CpuEngine.column.toPicture = .ok CpuEngine.column ∧
      ∃ g, ofPicture ⟨.lumaA16, grayWords.extent, #[51400, 0, 25700, 65535], rfl⟩ = .ok g ∧
        g.toRgb = f.toRgb := by
  obtain ⟨back, colors, pictures⟩ := conversions_keep_colors
  obtain ⟨f, made, -, seen, hidden⟩ :=
    pictures grayWords (show 2 * 4 < 2 ^ 63 by decide) (by decide)
  obtain ⟨-, -, -, again, -⟩ := colors f
  refine ⟨f, made, (seen 0 1).trans rfl, again, (back CpuEngine.column (by decide)).2,
    hidden (#[51400, 0, 25700, 65535] : Array UInt16) rfl ?_⟩
  rintro (_ | _ | _ | _ | i) color
  · rfl
  · exact absurd ⟨rfl, rfl⟩ color
  · rfl
  · exact absurd ⟨rfl, rfl⟩ color
  · rfl

end Frame

end Tint
