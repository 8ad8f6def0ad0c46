import Tint.Picture
import Tint.Proofs.Gpu.Texels

/-!
# Masks in bytes and in words

A picture of bytes can be held in words as well, each byte as the word of the same intensity.
Reducing the words gives the bytes back, so both pictures are the same color with alpha
(`rgbaBytes_widened`), and their frames differ only in what is made of a missing alpha: the
frame of bytes has none, the frame of words has a full one.

`alike_widened_iff` says what comes of it when a picture is used as a mask. The weights are the
same in bytes and in words unless alpha is chosen and the picture has none; in words such a
picture then weighs every pixel fully, also where in bytes it is refused.

## The model

* `Picture.widened` is a picture of bytes in words.
* `Picture.plane` is the plane of a picture that is used as a mask.
* `Picture.Alike` says that two pictures give the same plane or are both refused.
-/

namespace Tint

/-! ### Widening -/

/-- The word of the same intensity as a byte. -/
def Depth.widen (b : UInt8) : UInt16 := UInt16.ofNat (257 * b.toNat)

/-- A word that was widened from a byte is reduced to it. -/
@[simp] theorem Depth.toByte_widen (b : UInt8) : Depth.toByte .word (widen b) = b := by
  have small := b.toNat_lt
  have word : (widen b).toNat = 257 * b.toNat := by
    rw [widen, UInt16.toNat_ofNat']
    omega
  rw [toByte, word, Nat.mul_add_div (by decide), show 128 / 257 = 0 from rfl, Nat.add_zero,
    UInt8.ofNat_toNat]

namespace Picture

/-- A picture of bytes with words for its bytes. Every other picture stays as it is. -/
def widened (p : Picture) : Picture :=
  match p with
  | ⟨.luma8, extent, samples, size⟩ =>
    ⟨.luma16, extent, samples.map Depth.widen, Array.size_map.trans size⟩
  | ⟨.lumaA8, extent, samples, size⟩ =>
    ⟨.lumaA16, extent, samples.map Depth.widen, Array.size_map.trans size⟩
  | ⟨.rgb8, extent, samples, size⟩ =>
    ⟨.rgb16, extent, samples.map Depth.widen, Array.size_map.trans size⟩
  | ⟨.rgba8, extent, samples, size⟩ =>
    ⟨.rgba16, extent, samples.map Depth.widen, Array.size_map.trans size⟩
  | p => p

theorem byteAt_some (p : Picture) (i : Nat) :
    p.byteAt (some i) = (p.samples[i]?.map p.layout.depth.toByte).getD Depth.opaqueByte := by
  rw [byteAt]
  cases p.samples[i]? <;> rfl

/-- A sample reduced to a byte is the same in bytes and in words. -/
theorem byteAt_widened (p : Picture) (place : Option Nat) :
    p.widened.byteAt place = p.byteAt place := by
  have mapped (samples : Array UInt8) (i : Nat) :
      ((samples.map Depth.widen)[i]?.map (Depth.toByte .word)).getD Depth.opaqueByte =
        (samples[i]?.map (Depth.toByte .byte)).getD Depth.opaqueByte := by
    rw [Array.getElem?_map, Option.map_map]
    exact congrArg (fun f => (samples[i]?.map f).getD Depth.opaqueByte) (funext Depth.toByte_widen)
  obtain ⟨layout, extent, samples, size⟩ := p
  cases place with
  | none => cases layout <;> rfl
  | some i =>
    rw [byteAt_some, byteAt_some]
    cases layout with
    | luma8 | lumaA8 | rgb8 | rgba8 => exact mapped samples i
    | _ => rfl

/-- A picture is the same color with alpha in bytes and in words. -/
theorem rgbaBytes_widened (p : Picture) : p.widened.rgbaBytes = p.rgbaBytes := by
  have bytes := p.byteAt_widened
  obtain ⟨layout, extent, samples, size⟩ := p
  cases layout <;> exact congrArg Array.ofFn (funext fun i => bytes _)

end Picture

/-! ### Planes of pictures -/

/-- The plane whose bytes are those of a function of the place. -/
def Plane.tabulate (extent : Extent) (byte : Nat → UInt8) : Plane :=
  ⟨extent, Array.ofFn fun (i : Fin extent.area) => byte i, Array.size_ofFn⟩

theorem Plane.tabulate_eq_iff {extent : Extent} {f g : Nat → UInt8} :
    tabulate extent f = tabulate extent g ↔ ∀ i < extent.area, f i = g i := by
  simp only [tabulate, Plane.mk.injEq, true_and]
  constructor
  · intro h i inside
    have byte := congrArg (·[i]?) h
    simpa only [Array.getElem?_ofFn, dif_pos inside, Option.some.injEq] using byte
  · intro h
    exact congrArg Array.ofFn (funext fun i => h i i.isLt)

/-- The plane of a mask that has the channel. -/
theorem Frame.plane_eq {mask : Frame} {channel : Channel} {plane : Nat}
    (has : maskPlane channel mask.layout = .ok plane) :
    mask.plane channel = .ok (.tabulate mask.extent fun i =>
      mask.bytes.getD (i * mask.layout.channels + plane) 0) := by
  rw [Frame.plane]
  split
  · next h => rw [has] at h; cases h
  · next place h =>
    obtain rfl : plane = place := Except.ok.inj (has.symm.trans h)
    congr 3
    funext i
    have stored := Frame.planePlace_lt i.isLt (maskPlane_lt h)
    rw [← mask.size_eq] at stored
    simp only [Array.getD_eq_getD_getElem?, Array.getElem?_eq_getElem stored, Option.getD_some]

/-- The layout of a picture that is kept as a frame. -/
def PixelLayout.kept : PixelLayout → PictureLayout
  | gray => .luma8
  | rgb => .rgb8
  | rgba => .rgba8

namespace Frame

variable (f : Frame)

theorem toPicture_extent : f.toPicture.extent = f.extent := by
  obtain ⟨extent, layout, bytes, empty, size⟩ := f
  cases layout <;> rfl

theorem toPicture_samples : f.toPicture.layout.samples = f.layout.channels := by
  obtain ⟨extent, layout, bytes, empty, size⟩ := f
  cases layout <;> rfl

variable {f}

theorem toPicture_channelSample? {c : Nat} (h : c < f.layout.channels) :
    f.toPicture.layout.channelSample? c = some c := by
  obtain ⟨extent, layout, bytes, empty, size⟩ := f
  cases layout with
  | gray => obtain rfl : c = 0 := Nat.lt_one_iff.1 h; rfl
  | rgb => exact if_pos h
  | rgba => rfl

theorem toPicture_byteAt {i : Nat} (h : i < f.bytes.size) :
    f.toPicture.byteAt (some i) = f.bytes.getD i 0 := by
  have byte : (f.bytes[i]?.map (Depth.toByte .byte)).getD Depth.opaqueByte = f.bytes.getD i 0 := by
    rw [Array.getD_eq_getD_getElem?, Array.getElem?_eq_getElem h]
    rfl
  rw [Picture.byteAt_some, ← byte]
  obtain ⟨extent, layout, bytes, empty, size⟩ := f
  cases layout <;> rfl

end Frame

namespace Picture

/-- The plane of a picture that is used as a mask. -/
def plane (p : Picture) (channel : Channel) : Except Fault Plane := do
  let mask ← (Frame.ofPicture p).mapError .frame
  (mask.plane channel).mapError .mask

/-- One of the four channels of a picture as color with alpha. -/
def channelPlane (p : Picture) (c : Nat) : Plane :=
  .tabulate p.extent fun i =>
    p.byteAt ((p.layout.channelSample? c).map (i * p.layout.samples + ·))

variable {p : Picture} {channel : Channel}

theorem getD_rgbaBytes {i c : Nat} (inside : i < p.extent.area) (four : c < 4) :
    p.rgbaBytes.getD (i * 4 + c) 0 =
      p.byteAt ((p.layout.channelSample? c).map (i * p.layout.samples + ·)) := by
  have place : i * 4 + c < p.extent.area * 4 := Frame.planePlace_lt inside four
  have texel : (i * 4 + c) / 4 = i := by omega
  have offset : (i * 4 + c) % 4 = c := by omega
  rw [rgbaBytes, Array.getD_eq_getD_getElem?, Array.getElem?_ofFn, dif_pos place, texel, offset,
    Option.getD_some]

theorem plane_of_frame {f : Frame} {c : Nat} (frame : Frame.ofPicture p = .ok f)
    (has : maskPlane channel f.layout = .ok c) :
    p.plane channel =
      .ok (.tabulate f.extent fun i => f.bytes.getD (i * f.layout.channels + c) 0) := by
  rw [plane, frame]
  simp only [Except.mapError, bind, Except.bind, Frame.plane_eq has]

/-- A picture that becomes the color with alpha of another one gives the chosen channel of
that one. -/
theorem plane_expanded {q : Picture} (nonempty : ¬ p.extent.IsEmpty)
    (small : p.extent.area * 4 < 2 ^ 64)
    (frame : Frame.ofPicture q = Frame.ofBytes p.extent .rgba p.rgbaBytes) (channel : Channel) :
    q.plane channel = .ok (p.channelPlane channel.plane) := by
  have size : p.rgbaBytes.size = p.extent.area * PixelLayout.rgba.channels := Array.size_ofFn
  have has : maskPlane channel .rgba = .ok channel.plane := by cases channel <;> rfl
  let f : Frame := ⟨p.extent, .rgba, p.rgbaBytes, nonempty, size⟩
  have frame : Frame.ofPicture q = .ok f :=
    frame.trans (Frame.ofBytes_self f (lt_of_eq_of_lt size small))
  rw [plane_of_frame frame has]
  refine congrArg Except.ok (Plane.tabulate_eq_iff.2 ?_)
  intro i inside
  exact getD_rgbaBytes inside (Gpu.plane_lt channel)

theorem ofPicture_widened (p : Picture) :
    Frame.ofPicture p.widened = Frame.ofBytes p.extent .rgba p.rgbaBytes := by
  rw [← p.rgbaBytes_widened]
  obtain ⟨layout, extent, samples, size⟩ := p
  cases layout <;> rfl

/-- A picture that is kept as a frame gives the channel of the frame. -/
theorem plane_toPicture {f : Frame} {c : Nat} (small : f.bytes.size < 2 ^ 64)
    (has : maskPlane channel f.layout = .ok c) :
    f.toPicture.plane channel = .ok (f.toPicture.channelPlane c) := by
  have least := maskPlane_lt has
  rw [plane_of_frame (Frame.ofPicture_toPicture f small) has, channelPlane, f.toPicture_extent,
    f.toPicture_samples, Frame.toPicture_channelSample? least]
  refine congrArg Except.ok (Plane.tabulate_eq_iff.2 ?_)
  intro i inside
  have stored := Frame.planePlace_lt inside least
  rw [← f.size_eq] at stored
  exact (Frame.toPicture_byteAt stored).symm

/-! ### Pictures of bytes -/

section

variable (nonempty : ¬ p.extent.IsEmpty) (small : p.extent.area * 4 < 2 ^ 64)

include nonempty small

/-- A picture in the layout of a frame is the picture of one. -/
theorem exists_toPicture {l : PixelLayout} (layout : p.layout = l.kept) :
    ∃ f : Frame, f.toPicture = p ∧ f.layout = l ∧ f.bytes.size < 2 ^ 64 := by
  have few : l.channels ≤ 4 := by cases l <;> decide
  have bound : p.extent.area * l.channels < 2 ^ 64 :=
    Nat.lt_of_le_of_lt (Nat.mul_le_mul_left _ few) small
  obtain ⟨_, extent, samples, size⟩ := p
  cases layout
  cases l with
  | gray => exact ⟨⟨extent, .gray, samples, nonempty, size⟩, rfl, rfl, size ▸ bound⟩
  | rgb => exact ⟨⟨extent, .rgb, samples, nonempty, size⟩, rfl, rfl, size ▸ bound⟩
  | rgba => exact ⟨⟨extent, .rgba, samples, nonempty, size⟩, rfl, rfl, size ▸ bound⟩

/-- A gray picture of bytes is used as it is, whatever channel is chosen. -/
theorem plane_luma8 (layout : p.layout = .luma8) : p.plane channel = .ok (p.channelPlane 0) := by
  obtain ⟨f, rfl, gray, small⟩ := exists_toPicture (l := .gray) nonempty small layout
  exact plane_toPicture small (by rw [gray]; rfl)

/-- A picture of bytes with an alpha gives the chosen one of its channels. -/
theorem plane_withAlpha (layout : p.layout = .lumaA8 ∨ p.layout = .rgba8) :
    p.plane channel = .ok (p.channelPlane channel.plane) := by
  obtain luma | rgba := layout
  · refine plane_expanded nonempty small ?_ channel
    obtain ⟨_, extent, samples, size⟩ := p
    cases luma
    rfl
  · obtain ⟨f, rfl, rgba, small⟩ := exists_toPicture (l := .rgba) nonempty small rgba
    exact plane_toPicture small (by rw [rgba]; cases channel <;> rfl)

theorem plane_rgb8 (layout : p.layout = .rgb8) (other : channel ≠ .alpha) :
    p.plane channel = .ok (p.channelPlane channel.plane) := by
  obtain ⟨f, rfl, rgb, small⟩ := exists_toPicture (l := .rgb) nonempty small layout
  refine plane_toPicture small ?_
  rw [rgb]
  cases channel with
  | unknown | red => rfl
  | alpha => exact absurd rfl other

/-- A picture of colors in bytes has no alpha. -/
theorem plane_rgb8_alpha (layout : p.layout = .rgb8) :
    p.plane .alpha = .error (.mask (.missingChannel .alpha .rgb)) := by
  obtain ⟨f, rfl, rgb, small⟩ := exists_toPicture (l := .rgb) nonempty small layout
  have lacks : maskPlane .alpha f.layout = .error (.missingChannel .alpha .rgb) := by
    rw [rgb]
    rfl
  obtain ⟨cause, same, refused⟩ | ⟨_, _, has, -⟩ := f.plane_cases .alpha
  · obtain rfl := Except.error.inj (same.symm.trans lacks)
    rw [plane, Frame.ofPicture_toPicture f small]
    simp only [Except.mapError, bind, Except.bind, refused]
  · rw [lacks] at has
    cases has

end

theorem channelPlane_gray (layout : p.layout = .luma8) :
    p.channelPlane 0 = .tabulate p.extent fun i => p.byteAt (some i) := by
  have sample : p.layout.channelSample? 0 = some 0 := by rw [layout]; rfl
  have single : p.layout.samples = 1 := by rw [layout]; rfl
  simp only [channelPlane, sample, single, Option.map_some, Nat.mul_one, Nat.add_zero]

theorem channelPlane_full (layout : p.layout = .luma8 ∨ p.layout = .rgb8) :
    p.channelPlane Channel.alpha.plane = .tabulate p.extent fun _ => 255 := by
  have missing : p.layout.channelSample? Channel.alpha.plane = none := by
    obtain h | h := layout <;> rw [h] <;> rfl
  rw [channelPlane, missing]
  rfl

/-! ### Weighing alike -/

/-- Two pictures weigh alike by a channel: they give the same plane, or neither of them may be
used as a mask. -/
def Alike (p q : Picture) (channel : Channel) : Prop :=
  (∃ m, p.plane channel = .ok m ∧ q.plane channel = .ok m) ∨
    (∃ fault, p.plane channel = .error fault ∧ fault.kind = .contractViolation) ∧
      ∃ fault, q.plane channel = .error fault ∧ fault.kind = .contractViolation

theorem alike_iff_of_ok {q : Picture} {m n : Plane} (hp : p.plane channel = .ok m)
    (hq : q.plane channel = .ok n) : p.Alike q channel ↔ m = n := by
  rw [Alike, hp, hq]
  constructor
  · rintro (⟨_, ⟨⟩, ⟨⟩⟩ | ⟨⟨_, ⟨⟩, -⟩, -⟩)
    rfl
  · rintro rfl
    exact .inl ⟨m, rfl, rfl⟩

theorem not_alike_of_error {q : Picture} {fault : Fault} {n : Plane}
    (hp : p.plane channel = .error fault) (hq : q.plane channel = .ok n) :
    ¬ p.Alike q channel := by
  rw [Alike, hp, hq]
  rintro (⟨_, ⟨⟩, -⟩ | ⟨-, _, ⟨⟩, -⟩)

/-- **A picture weighs alike in bytes and in words unless alpha is chosen and it has none.** A
gray picture of bytes is then used as it is, and one of colors is refused, but in words either
weighs every pixel fully. The bytes of the color with alpha are to be counted in 64 bits, as
those in any memory are. -/
theorem alike_widened_iff (bytes : p.layout.depth = .byte) (nonempty : ¬ p.extent.IsEmpty)
    (small : p.extent.area * 4 < 2 ^ 64) (channel : Channel) :
    (p.Alike p.widened channel ↔ (channel = .alpha →
      p.layout = .lumaA8 ∨ p.layout = .rgba8 ∨
        p.layout = .luma8 ∧ ∀ i < p.extent.area, p.byteAt (some i) = 255)) ∧
    (p.layout = .luma8 → p.plane channel = .ok (.tabulate p.extent fun i => p.byteAt (some i))) ∧
    (channel = .alpha → p.layout = .rgb8 →
      p.plane channel = .error (.mask (.missingChannel .alpha .rgb))) ∧
    (channel = .alpha → p.layout = .luma8 ∨ p.layout = .rgb8 →
      p.widened.plane channel = .ok (.tabulate p.extent fun _ => 255)) := by
  have wide : p.widened.plane channel = .ok (p.channelPlane channel.plane) :=
    plane_expanded nonempty small p.ofPicture_widened channel
  refine ⟨?_, ?_, ?_, ?_⟩
  · cases layout : p.layout with
    | luma8 =>
      rw [alike_iff_of_ok (plane_luma8 nonempty small layout) wide]
      cases channel with
      | unknown | red => exact ⟨nofun, fun _ => rfl⟩
      | alpha =>
        rw [channelPlane_gray layout, channelPlane_full (.inl layout), Plane.tabulate_eq_iff]
        simp
    | lumaA8 =>
      rw [alike_iff_of_ok (plane_withAlpha nonempty small (.inl layout)) wide]
      simp
    | rgba8 =>
      rw [alike_iff_of_ok (plane_withAlpha nonempty small (.inr layout)) wide]
      simp
    | rgb8 =>
      by_cases alpha : channel = .alpha
      · subst alpha
        have apart := not_alike_of_error (plane_rgb8_alpha nonempty small layout) wide
        simpa using apart
      · rw [alike_iff_of_ok (plane_rgb8 nonempty small layout alpha) wide]
        simp [alpha]
    | luma16 | lumaA16 | rgb16 | rgba16 | rgb32F | rgba32F => rw [layout] at bytes; cases bytes
  · intro layout
    rw [plane_luma8 nonempty small layout, channelPlane_gray layout]
  · rintro rfl layout
    exact plane_rgb8_alpha nonempty small layout
  · rintro rfl layout
    rw [wide, channelPlane_full layout]

/-- A red pixel. -/
def redDot : Picture := ⟨.rgb8, CpuEngine.dotMask.extent, #[200, 0, 0], rfl⟩

/-- A red pixel has no alpha in bytes, and a full one in words. -/
theorem alike_widened_iff_redDot :
    redDot.Alike redDot.widened .red ∧
      redDot.plane .alpha = .error (.mask (.missingChannel .alpha .rgb)) ∧
      redDot.widened.plane .alpha = .ok (.tabulate redDot.extent fun _ => 255) := by
  obtain ⟨red, -⟩ := @alike_widened_iff redDot rfl (by decide) (by decide) .red
  obtain ⟨-, -, refused, full⟩ := @alike_widened_iff redDot rfl (by decide) (by decide) .alpha
  exact ⟨red.2 nofun, refused rfl rfl, full rfl (.inr rfl)⟩

/-- A black pixel, in gray. -/
def blackDot : Picture := ⟨.luma8, CpuEngine.dotMask.extent, #[0], rfl⟩

/-- A black pixel weighs nothing in bytes, and by alpha it weighs fully in words. -/
theorem blackDot_unlike : ¬ ∀ (p : Picture) (channel : Channel), p.layout.depth = .byte →
    ¬ p.extent.IsEmpty → p.Alike p.widened channel := by
  intro alike
  have narrow : blackDot.plane .alpha = .ok ⟨blackDot.extent, #[0], rfl⟩ := rfl
  have wide : blackDot.widened.plane .alpha = .ok ⟨blackDot.extent, #[255], rfl⟩ := rfl
  have same := (alike_iff_of_ok narrow wide).1 (alike blackDot .alpha rfl (by decide))
  revert same
  decide

end Picture

end Tint
