import Tint.Gpu.Renderer
import Tint.Proofs.Recolor

/-!
# Masks as textures

A mask on a graphics device is read by the name of a component of its texels, a mask in host
memory by the number of a channel of its pixels. The two readings are tied together by what
uploading a frame makes of its bytes. `upload_plane` says that they agree: the check before a
pass refuses the uploads of exactly those masks that have no plane, and every texel of any
other upload holds the byte of the plane where the shader program reads it.

## The model

* `componentPlace?` is the order of the components of a texel.
* `Texture.component?` is what a shader program reads by the name of a component, as far as
  it is known.
-/

namespace Tint.Gpu

/-- The place of a component among the bytes of a texel. -/
def componentPlace? : String → Option Nat
  | "r" => some 0
  | "g" => some 1
  | "b" => some 2
  | "a" => some 3
  | _ => none

/-- The byte of a component of the texel in column `x` of row `y`, if there is such a texel and
its bytes were uploaded. -/
def Texture.component? (t : Texture) (name : String) (x y : Nat) : Option UInt8 :=
  match componentPlace? name, t.texels with
  | some place, some texels =>
    if x < t.extent.width ∧ y < t.extent.height then
      texels.val[(y * t.extent.width + x) * 4 + place]?
    else none
  | _, _ => none

theorem componentPlace?_component (channel : Channel) :
    componentPlace? channel.component = some channel.plane := by
  cases channel <;> rfl

theorem plane_lt (channel : Channel) : channel.plane < 4 := by
  cases channel <;> decide

namespace Device

/-! ### Uploads -/

theorem fits_of_le {d : Device} {extent : Extent} (nonempty : ¬ extent.IsEmpty)
    (wide : extent.width ≤ d.limit) (tall : extent.height ≤ d.limit) : d.fits extent = true := by
  rw [Extent.IsEmpty, not_or] at nonempty
  simp only [fits, Bool.and_eq_true, decide_eq_true_eq]
  exact ⟨⟨⟨nonempty.1, nonempty.2⟩, wide⟩, tall⟩

theorem createTexture_eq {d : Device} {extent : Extent} (fits : d.fits extent = true)
    (usage : List TextureUsage) (texels : Option (Texels extent)) :
    createTexture extent usage texels d =
      (.ok ⟨d.id, d.next, extent, .frame, usage, texels⟩,
        { d with next := d.next + 1, textures := d.next :: d.textures }) := by
  simp only [createTexture, bind, Job.get, if_pos fits]
  rfl

theorem upload_eq {d : Device} {f : Frame} (fits : d.fits f.extent = true) :
    upload f d =
      (.ok ⟨⟨d.id, d.next, f.extent, .frame, [.textureBinding, .copyDst, .copySrc],
          some (texelsOf f)⟩, f.layout⟩,
        { d with next := d.next + 1, textures := d.next :: d.textures }) := by
  simp only [upload, bind, createTexture_eq fits]
  rfl

theorem getElem?_texelsOf (f : Frame) {i : Nat} (h : i < f.extent.area * 4) :
    (texelsOf f).val[i]? =
      some (match texelSource f.layout i with
        | some place => f.bytes.getD place 0
        | none => 255) := by
  rw [Array.getElem?_eq_getElem (by rw [(texelsOf f).property]; exact h)]
  exact congrArg some (Array.getElem_ofFn ..)

/-- The channel of a mask that has it is uploaded to the place where the shader program reads
it: a gray mask fills every component, and a mask of several channels keeps the order. -/
theorem texelSource_plane {channel : Channel} {layout : PixelLayout} {plane : Nat}
    (h : maskPlane channel layout = .ok plane) (i : Nat) :
    texelSource layout (i * 4 + channel.plane) = some (i * layout.channels + plane) := by
  have small := plane_lt channel
  cases layout with
  | gray =>
    cases h
    simp only [texelSource, PixelLayout.channels, Option.some.injEq]
    omega
  | rgb =>
    simp only [maskPlane] at h
    split at h <;> cases h
    rename_i few
    simp only [PixelLayout.channels] at few ⊢
    rw [texelSource, if_pos (by omega)]
    exact congrArg some (by omega)
  | rgba =>
    simp only [maskPlane] at h
    split at h <;> cases h
    rfl

end Device

end Tint.Gpu

namespace Tint

/-! ### Planes -/

/-- A mask has a plane unless it lacks the channel. -/
theorem Frame.plane_cases (mask : Frame) (channel : Channel) :
    (∃ cause, maskPlane channel mask.layout = .error cause ∧ mask.plane channel = .error cause) ∨
      ∃ plane p, maskPlane channel mask.layout = .ok plane ∧ mask.plane channel = .ok p ∧
        ∀ x y, x < mask.extent.width → y < mask.extent.height →
          p.texel? x y = some (mask.bytes.getD
            ((y * mask.extent.width + x) * mask.layout.channels + plane) 0) := by
  rw [Frame.plane]
  split
  · next cause h => exact .inl ⟨cause, h, rfl⟩
  · next plane h =>
    refine .inr ⟨plane, _, h, rfl, ?_⟩
    intro x y hx hy
    have inside := Extent.place_lt hx hy
    have stored := Frame.planePlace_lt inside (maskPlane_lt h)
    rw [← mask.size_eq] at stored
    rw [Plane.texel?, if_pos ⟨hx, hy⟩, Array.getElem?_eq_getElem (by simpa using inside),
      Array.getElem_ofFn, Array.getD_eq_getD_getElem?, Array.getElem?_eq_getElem stored]
    rfl

namespace Gpu

open Studio

/-- The check before a pass looks for the channel in the layout that the mask came in. -/
theorem checkChannel_eq (channel : Channel) (mask : GpuFrame) :
    checkChannel channel mask =
      ((maskPlane channel mask.source).map fun _ => ()).mapError Fault.mask := by
  obtain ⟨texture, source⟩ := mask
  cases source with
  | gray => exact if_neg fun h => h.1 rfl
  | rgb => cases channel <;> rfl
  | rgba => cases channel <;> rfl

/-- **A device reads the plane that host memory reads.** A mask within the limit of the device
can be uploaded. The check before a pass fails for its upload exactly if the mask has no plane,
and for the same cause; else the component that the shader program reads is, in every texel,
the byte of the plane. -/
theorem upload_plane {d : Device} {mask : Frame} (wide : mask.extent.width ≤ d.limit)
    (tall : mask.extent.height ≤ d.limit) (channel : Channel) :
    ∃ g d', Device.upload mask d = (.ok g, d') ∧
      (∀ fault, checkChannel channel g = .error fault ↔
        ∃ cause, mask.plane channel = .error cause ∧ fault = .mask cause) ∧
      ∀ p, mask.plane channel = .ok p → checkChannel channel g = .ok () ∧
        ∀ x y, x < mask.extent.width → y < mask.extent.height →
          ∃ byte, p.texel? x y = some byte ∧
            g.texture.component? channel.component x y = some byte := by
  have fits := Device.fits_of_le mask.nonempty wide tall
  refine ⟨_, _, Device.upload_eq fits, ?_, ?_⟩
  · intro fault
    rw [checkChannel_eq]
    obtain ⟨cause, lacks, failed⟩ | ⟨plane, p, has, accepted, -⟩ := mask.plane_cases channel
    · rw [lacks, failed]
      constructor
      · rintro ⟨⟩
        exact ⟨cause, rfl, rfl⟩
      · rintro ⟨_, ⟨⟩, rfl⟩
        rfl
    · rw [has, accepted]
      constructor
      · rintro ⟨⟩
      · rintro ⟨_, ⟨⟩, -⟩
  · intro p accepted
    obtain ⟨cause, -, failed⟩ | ⟨plane, p', has, same, texels⟩ := mask.plane_cases channel
    · rw [failed] at accepted
      cases accepted
    · rw [same] at accepted
      cases accepted
      refine ⟨by rw [checkChannel_eq, has]; rfl, ?_⟩
      intro x y hx hy
      refine ⟨_, texels x y hx hy, ?_⟩
      have inside := Extent.place_lt hx hy
      have stored := Frame.planePlace_lt inside (plane_lt channel)
      simp only [Texture.component?, componentPlace?_component, if_pos (And.intro hx hy)]
      rw [Device.getElem?_texelsOf mask stored, Device.texelSource_plane has]

/-- A gray mask is read through an alpha that it does not have. -/
theorem upload_plane_gray :
    ∃ g d', Device.upload CpuEngine.upperMask {} = (.ok g, d') ∧
      checkChannel .alpha g = .ok () ∧ g.texture.component? "a" 0 0 = some 255 := by
  have accepted : CpuEngine.upperMask.plane .alpha =
      .ok ⟨{ width := 1, height := 2 }, #[255, 0], rfl⟩ := rfl
  obtain ⟨g, d', uploaded, -, read⟩ :=
    @upload_plane {} CpuEngine.upperMask (by decide) (by decide) .alpha
  obtain ⟨passes, texels⟩ := read _ accepted
  obtain ⟨byte, texel, component⟩ := texels 0 0 (by decide) (by decide)
  cases texel
  exact ⟨g, d', uploaded, passes, component⟩

end Gpu

end Tint
