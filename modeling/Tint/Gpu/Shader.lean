import Tint.Settings

/-!
# The shader

What a graphics device is given to recolor a frame: the text of the shader program, a
quad that covers the whole target, and the uniform that holds the target color. The
program does per fragment what `Mix` does per pixel, with channels from 0 to 1.
-/

namespace Tint.Gpu.Shader

/-- The name of the vertex stage. -/
def vertexEntry : String := "vs_main"

/-- The name of the fragment stage. -/
def fragmentEntry : String := "fs_main"

/-- The lines of the program that reads the weight from a component of the mask. -/
def lines (component : String) : List String :=
  ["",
   "struct VsIn \x7b",
   "  @location(0) position: vec2<f32>,",
   "  @location(1) texture_coordinate: vec2<f32>,",
   "\x7d;",
   "",
   "struct VsOut \x7b",
   "  @builtin(position) pos: vec4<f32>,",
   "  @location(0) sample_coordinate: vec2<f32>,",
   "\x7d;",
   "",
   "@vertex",
   "fn vs_main(in: VsIn) -> VsOut \x7b",
   "  var o: VsOut;",
   "  o.pos = vec4<f32>(in.position, 0.0, 1.0);",
   "  o.sample_coordinate = in.texture_coordinate;",
   "  return o;",
   "\x7d",
   "",
   "@group(0) @binding(0) var t_frame: texture_2d<f32>;",
   "@group(0) @binding(1) var t_mask: texture_2d<f32>;",
   "@group(0) @binding(2) var s_linear: sampler;",
   "@group(0) @binding(3) var<uniform> recolor: vec4<f32>;",
   "",
   "@fragment",
   "fn fs_main(in: VsOut) -> @location(0) vec4<f32> \x7b",
   "  let weight = textureSample(t_mask, s_linear, in.sample_coordinate);",
   "  let color1 = textureSample(t_frame, s_linear, in.sample_coordinate);",
   "  let color2 = vec4<f32>(recolor.rgb, 1.0);",
   "",
   "  let luminance = dot(color1.rgb, vec3<f32>(0.299, 0.587, 0.114));",
   "  let mix_value = clamp(weight." ++ component ++ " * luminance, 0.0, 1.0);",
   "",
   "  return mix(color1, color2, mix_value);",
   "\x7d",
   ""]

/-- The program for a channel of the mask. -/
def text (channel : Channel) : String := String.intercalate "\n" (lines channel.component)

/-- The four bytes of a word, the lowest first. -/
def wordBytes (word : Nat) : List UInt8 :=
  [0, 8, 16, 24].map fun shift => UInt8.ofNat (word >>> shift % 256)

/-- The four bytes of a number, the lowest first. -/
def singleBytes (v : Single) : List UInt8 := wordBytes v.toBits

/-- A corner of the quad: its place on the target, from -1 to 1 with up as positive, and
its place on the source, from 0 to 1 with down as positive. -/
def vertices : List (List Int) :=
  [[-1, -1, 0, 1], [1, -1, 1, 1], [-1, 1, 0, 0], [1, 1, 1, 0]]

/-- The bytes of the quad, a strip of two triangles. -/
def quadBytes : List UInt8 :=
  vertices.flatten.flatMap fun v => singleBytes (Binary.ofInt v)

/-- The number of bytes of a corner. -/
def quadStride : Nat := 16

/-- A value that the vertex stage takes from a corner. -/
structure Attribute where
  /-- The format of the value. -/
  format : String
  /-- The number of bytes before it. -/
  offset : Nat
  /-- The number of the value in the program. -/
  location : Nat
deriving DecidableEq, Repr

/-- The values of a corner: its place on the target and its place on the source. -/
def quadAttributes : List Attribute := [⟨"Float32x2", 0, 0⟩, ⟨"Float32x2", 8, 1⟩]

/-- The bytes of a uniform of three words: the words, and a one. -/
def uniformOfWords (words : Rgb Nat) : List UInt8 :=
  words.toList.flatMap wordBytes ++ singleBytes (Binary.ofNat 1)

/-- The bytes of the uniform: the color, each channel from 0 to 1, and a one. -/
def uniformBytes (color : Rgb Single) : List UInt8 := uniformOfWords (color.map (·.toBits))

end Tint.Gpu.Shader
