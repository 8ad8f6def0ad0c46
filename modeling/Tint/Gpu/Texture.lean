import Tint.Frame

/-!
# Textures

A texture is a picture in the memory of a graphics device. What is fixed when it is
made is kept with it: its size, the format of its texels, what it may be used for, and
its texels if they were uploaded. Whether it still exists is known to the device.
-/

namespace Tint.Gpu

/-- The format of a texel. -/
inductive TexelFormat where
  /-- Four bytes, red first, that stand for numbers from 0 to 1. -/
  | rgba8Unorm
  /-- Another format, by its name. -/
  | other (name : String)
deriving DecidableEq, Repr

namespace TexelFormat

/-- The name of a format. -/
def name : TexelFormat → String
  | rgba8Unorm => "Rgba8Unorm"
  | other name => name

/-- The format of a name. -/
def ofName (name : String) : TexelFormat :=
  if name = "Rgba8Unorm" then rgba8Unorm else other name

/-- The format of every texture that holds a frame. -/
def frame : TexelFormat := rgba8Unorm

end TexelFormat

/-- What a texture may be used for. -/
inductive TextureUsage where
  /-- To be copied from. -/
  | copySrc
  /-- To be copied to. -/
  | copyDst
  /-- To be sampled by a shader. -/
  | textureBinding
  /-- To be written by a shader. -/
  | storageBinding
  /-- To be drawn on. -/
  | renderAttachment
deriving DecidableEq, Repr

namespace TextureUsage

/-- The name of a usage. -/
def name : TextureUsage → String
  | copySrc => "COPY_SRC"
  | copyDst => "COPY_DST"
  | textureBinding => "TEXTURE_BINDING"
  | storageBinding => "STORAGE_BINDING"
  | renderAttachment => "RENDER_ATTACHMENT"

/-- All usages, by name. -/
def all : List TextureUsage :=
  [copyDst, copySrc, renderAttachment, storageBinding, textureBinding]

end TextureUsage

/-- The texels of a frame's texture, four bytes each. -/
abbrev Texels (extent : Extent) : Type := { bytes : Array UInt8 // bytes.size = extent.area * 4 }

/-- A texture, as those who hold it see it. -/
structure Texture where
  /-- The number of the device that the texture is on. -/
  device : Nat
  /-- The number of the texture on its device. -/
  id : Nat
  /-- The width and height. -/
  extent : Extent
  /-- The format of a texel. -/
  format : TexelFormat
  /-- What the texture may be used for. -/
  usage : List TextureUsage
  /-- The texels, if they were uploaded. -/
  texels : Option (Texels extent)

/-- A frame in the memory of a graphics device. It remembers the layout that its texels
were made from, since a frame without alpha gets an alpha when it is uploaded. -/
structure GpuFrame where
  /-- The texture that holds the frame. -/
  texture : Texture
  /-- The layout of the texels' source. -/
  source : PixelLayout

namespace GpuFrame

/-- A texture all of whose four channels are real. -/
def ofTexture (t : Texture) : GpuFrame := ⟨t, .rgba⟩

/-- The width and height. -/
def extent (f : GpuFrame) : Extent := f.texture.extent

end GpuFrame

end Tint.Gpu
