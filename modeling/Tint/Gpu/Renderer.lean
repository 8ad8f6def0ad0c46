import Tint.Gpu.Device
import Tint.Gpu.Shader
import Tint.Settings

/-!
# Recoloring on a device

A renderer draws a quad over a new texture with a shader program that mixes as `Mix`
does. The program is made on first use and kept. What a pass makes for itself is
destroyed on every way out of it, and its target on every way but success.
-/

namespace Tint.Gpu

/-- What a renderer keeps on its device. -/
structure Program where
  /-- The buffer of the uniform. -/
  uniform : Buffer
  /-- The text of the shader program. -/
  shader : String
  /-- The bytes of the uniform. -/
  color : List UInt8
deriving DecidableEq, Repr

/-- What draws on a device. -/
structure Renderer where
  /-- The settings of the blend. -/
  settings : Settings
  /-- The program, once it is made. -/
  program : Option Program := none
deriving DecidableEq, Repr

/-- The state of the thread that owns a device: the device, and a renderer. -/
structure Studio where
  /-- The device. -/
  device : Device
  /-- The renderer. -/
  renderer : Renderer

namespace Studio

/-- Do a job on the device. -/
def onDevice {α : Type} (job : Job Device α) : Job Studio α :=
  job.within Studio.device fun s d => { s with device := d }

/-- The renderer has its program. -/
def isPrepared (s : Studio) : Bool := s.renderer.program.isSome

/-- Make the program, if there is none. -/
def prepare : Job Studio Unit := do
  let s ← Job.get
  if s.isPrepared then return ()
  else
    let settings := s.renderer.settings
    onDevice Device.pushScope
    let uniform ← onDevice (Device.createBuffer .uniform 16)
    match ← onDevice Device.popScope with
    | some report =>
      onDevice (Job.modify (Device.destroy uniform.id))
      Job.fault (.device (.setupFailed report))
    | none =>
      let program : Program :=
        ⟨uniform, Shader.text settings.channel, Shader.uniformBytes settings.target⟩
      Job.modify fun s => { s with renderer := { s.renderer with program := some program } }

/-- A frame has to be in a texture that a shader can sample. -/
def checkSampleable (role : FrameRole) (f : GpuFrame) : Except Fault Unit :=
  if f.texture.format ≠ TexelFormat.frame then
    .error (.texture (.unsampledFormat role f.texture.format))
  else if !f.texture.usage.contains .textureBinding then
    .error (.texture (.unsampledUsage role))
  else .ok ()

/-- The layout that a mask's texels were made from has to have the chosen channel: the
alpha of a mask that came without one says nothing. -/
def checkChannel (channel : Channel) (mask : GpuFrame) : Except Fault Unit :=
  if mask.source ≠ .gray ∧ mask.source.channels ≤ channel.plane then
    .error (.mask (.missingChannel channel mask.source))
  else .ok ()

/-- What is checked before a pass. -/
def checkFrames (channel : Channel) (source mask : GpuFrame) : Except Fault Unit := do
  checkSampleable .image source
  checkSampleable .mask mask
  checkChannel channel mask

/-- A job that gives the outcome of a check. -/
def ofCheck {σ : Type} : Except Fault Unit → Job σ Unit
  | .ok () => pure ()
  | .error fault => Job.fault fault

/-- Draw the quad with the two textures bound, and close the scope that the pass is
checked in. -/
def drawQuad (source mask : GpuFrame) : Job Device (Option String) := do
  Device.lookUp source.texture
  Device.lookUp mask.texture
  Device.popScope

/-- Draw on a target of the source's size. -/
def pass (source mask : GpuFrame) : Job Device GpuFrame := do
  let target ← Device.createTarget source.extent
  let draw : Job Device GpuFrame := do
    Device.pushScope
    let quad ← Device.createBuffer .vertices Shader.quadBytes.length
    match ← (drawQuad source mask).cleanedBy (Device.destroy quad.id) with
    | some report => Job.fault (.device (.passFailed report))
    | none => return GpuFrame.ofTexture target
  draw.undoneBy (Device.destroy target.id)

/-- Recolor a frame by a mask. The program is made also if the mask is missing, and then
there is no output. -/
def process (source : GpuFrame) (mask : Option GpuFrame) : Job Studio (Option GpuFrame) := do
  prepare
  match mask with
  | none => return none
  | some mask =>
    let s ← Job.get
    ofCheck (checkFrames s.renderer.settings.channel source mask)
    match s.renderer.program with
    | none => Job.fault (.device .noProgram)
    | some _ => some <$> onDevice (pass source mask)

/-- Release the program. It is made again on the next use. -/
def release : Job Studio Unit := Job.modify fun s =>
  match s.renderer.program with
  | none => s
  | some program =>
    { device := s.device.destroy program.uniform.id
      renderer := { s.renderer with program := none } }

end Studio

end Tint.Gpu
