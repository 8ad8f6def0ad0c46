import Tint.Fault

/-!
# Graphics devices

A device that owns textures and buffers and checks what is asked of it. It does not
draw: what a pass leaves in its target is not known. Nor does it break: that an adapter does
not open, or that the device fails to wait for a copy or to map it, is left out.

## The model

* Devices, and the things on a device, have numbers. A device remembers what was made and
  what was destroyed, so that nothing can get lost unseen.
* A check that fails is reported to the innermost open error scope. A report outside
  all scopes ends the thread that owns the device.
* `verdicts` are what the checks of the device, as far as this model does not know them,
  say at the ends of the scopes to come; a healthy device has nothing to say.
* A `Job` is work on a state by the thread that owns it. It gives a value or a fault, or
  it crashes; what it did to the state remains either way.
-/

namespace Tint.Gpu

/-! ### Jobs -/

/-- Work on a state of type `σ`. A job that crashes ends its thread. -/
def Job (σ α : Type) : Type := σ → Except (Halt Fault) α × σ

namespace Job

variable {σ τ α : Type}

instance : Monad (Job σ) where
  pure a := fun s => (.ok a, s)
  bind job next := fun s =>
    match job s with
    | (.ok a, s) => next a s
    | (.error halt, s) => (.error halt, s)

/-- Give a fault. -/
def fault (f : Fault) : Job σ α := fun s => (.error (.fault f), s)

/-- End the thread. -/
def crash : Job σ α := fun s => (.error .crash, s)

/-- The state. -/
def get : Job σ σ := fun s => (.ok s, s)

/-- Change the state. -/
def modify (f : σ → σ) : Job σ Unit := fun s => (.ok (), f s)

/-- Do a job, then clean up, however the job ends. -/
def cleanedBy (job : Job σ α) (clean : σ → σ) : Job σ α := fun s =>
  ((job s).1, clean (job s).2)

/-- Do a job, then clean up unless it gives a value. -/
def undoneBy (job : Job σ α) (clean : σ → σ) : Job σ α := fun s =>
  match job s with
  | (.ok a, s) => (.ok a, s)
  | (.error halt, s) => (.error halt, clean s)

/-- Do a job on a part of the state. -/
def within (part : τ → σ) (put : τ → σ → τ) (job : Job σ α) : Job τ α := fun t =>
  ((job (part t)).1, put t (job (part t)).2)

end Job

/-! ### What a device owns -/

/-- What a buffer is for. -/
inductive BufferRole where
  /-- It holds the uniform of the shader program. -/
  | uniform
  /-- It holds the corners that a pass draws. -/
  | vertices
  /-- It takes a texture on its way to host memory. -/
  | readback
deriving DecidableEq, Repr

/-- A buffer. -/
structure Buffer where
  /-- The number of the buffer on its device. -/
  id : Nat
  /-- What the buffer is for. -/
  role : BufferRole
  /-- The number of bytes. -/
  size : Nat
deriving DecidableEq, Repr

/-- A graphics device. -/
structure Device where
  /-- The number of the device. -/
  id : Nat := 0
  /-- The greatest side of a texture. -/
  limit : Nat := 8192
  /-- The number of the next thing made. -/
  next : Nat := 0
  /-- The numbers of the textures made, newest first. -/
  textures : List Nat := []
  /-- The buffers made, newest first. -/
  buffers : List Buffer := []
  /-- The numbers of the things destroyed, newest first. -/
  destroyed : List Nat := []
  /-- The reports of the open error scopes, innermost first. -/
  scopes : List (List String) := []
  /-- What is said at the ends of the scopes to come. -/
  verdicts : List (Option String) := []
  /-- The bytes that are read where nothing was uploaded. -/
  residue : Nat → UInt8 := fun _ => 0

namespace Device

/-- The thing of a number has been destroyed. -/
def isDestroyed (d : Device) (id : Nat) : Bool := d.destroyed.contains id

/-- The device after a thing is destroyed. -/
def destroy (id : Nat) (d : Device) : Device := { d with destroyed := id :: d.destroyed }

/-! ### Error scopes -/

/-- Open an error scope. -/
def pushScope : Job Device Unit := Job.modify fun d => { d with scopes := [] :: d.scopes }

/-- Close the innermost error scope: its first report, or what the device says. -/
def popScope : Job Device (Option String) := fun d =>
  let verdict := d.verdicts.head?.join
  let rest := d.verdicts.tail
  match d.scopes with
  | [] => (.ok none, d)
  | reports :: scopes =>
    (.ok (reports.getLast? <|> verdict), { d with scopes, verdicts := rest })

/-- Report a check that fails. Outside all scopes that ends the thread. -/
def report (text : String) : Job Device Unit := fun d =>
  match d.scopes with
  | [] => (.error .crash, d)
  | reports :: scopes => (.ok (), { d with scopes := (text :: reports) :: scopes })

/-- Look at a texture. One of another device is not found, which ends the thread; one that
has been destroyed is reported. -/
def lookUp (t : Texture) : Job Device Unit := do
  let d ← Job.get
  if t.device ≠ d.id then Job.crash
  else if d.isDestroyed t.id then report "Texture has been destroyed"

/-! ### Making things -/

/-- Make a buffer. -/
def createBuffer (role : BufferRole) (size : Nat) : Job Device Buffer := fun d =>
  let buffer : Buffer := ⟨d.next, role, size⟩
  (.ok buffer, { d with next := d.next + 1, buffers := buffer :: d.buffers })

/-- Make a texture, whatever its size. -/
def allocate (extent : Extent) (format : TexelFormat) (usage : List TextureUsage)
    (texels : Option (Texels extent)) : Job Device Texture := fun d =>
  (.ok ⟨d.id, d.next, extent, format, usage, texels⟩,
    { d with next := d.next + 1, textures := d.next :: d.textures })

/-- The size is one that a texture of the device may have. -/
def fits (d : Device) (extent : Extent) : Bool :=
  extent.width ≠ 0 && extent.height ≠ 0 && extent.width ≤ d.limit && extent.height ≤ d.limit

/-- Make a texture of any format and use. What is wrong with it is reported. -/
def createRaw (extent : Extent) (format : TexelFormat) (usage : List TextureUsage) :
    Job Device Texture := do
  if !(← Job.get).fits extent || usage.isEmpty then report "Texture is not valid"
  allocate extent format usage none

/-- Make a texture for a frame. A size that the device does not have is refused. -/
def createTexture (extent : Extent) (usage : List TextureUsage)
    (texels : Option (Texels extent)) : Job Device Texture := do
  let d ← Job.get
  if d.fits extent then allocate extent TexelFormat.frame usage texels
  else Job.fault (.texture (.outsideLimit extent d.limit))

/-- Make a texture that a pass can draw on and that can be sampled later. -/
def createTarget (extent : Extent) : Job Device Texture :=
  createTexture extent [.renderAttachment, .textureBinding, .copySrc] none

/-! ### Upload and download -/

/-- The byte that channel `i % 4` of texel `i / 4` is made from: gray is repeated in all
four channels, and a color without alpha has none for it. -/
def texelSource : PixelLayout → Nat → Option Nat
  | .gray, i => some (i / 4)
  | .rgb, i => if i % 4 < 3 then some (i / 4 * 3 + i % 4) else none
  | .rgba, i => some i

/-- The texels of a frame. A missing alpha is opaque. -/
def texelsOf (f : Frame) : Texels f.extent :=
  ⟨Array.ofFn fun (i : Fin (f.extent.area * 4)) =>
    match texelSource f.layout i.val with
    | some place => f.bytes.getD place 0
    | none => 255, Array.size_ofFn⟩

/-- Copy a frame from host memory into a new texture. -/
def upload (f : Frame) : Job Device GpuFrame := do
  let texture ← createTexture f.extent [.textureBinding, .copyDst, .copySrc] (texelsOf f)
  return ⟨texture, f.layout⟩

/-- Rows in a buffer start at multiples of this number of bytes. -/
def rowAlignment : Nat := 256

/-- The least multiple of the row alignment that holds `length` bytes. -/
def alignRow (length : Nat) : Nat := (length + (rowAlignment - 1)) / rowAlignment * rowAlignment

/-- The byte between rows in a buffer. -/
def padding : UInt8 := 0xEE

/-- Texels in a buffer: rows of `row` bytes that start every `padded` bytes. -/
def paddedRows (texels : Array UInt8) (row padded height : Nat) : Array UInt8 :=
  Array.ofFn fun (i : Fin (padded * height)) =>
    if i.val % padded < row then texels.getD (i.val / padded * row + i.val % padded) 0
    else padding

/-- The rows of a buffer without what is between them. -/
def unpaddedRows (buffer : Array UInt8) (row padded height : Nat) : Array UInt8 :=
  Array.ofFn fun (i : Fin (row * height)) => buffer.getD (i.val / row * padded + i.val % row) 0

/-- The texels that are read from a texture. -/
def contents (d : Device) (t : Texture) : Array UInt8 :=
  match t.texels with
  | some texels => texels.val
  | none => Array.ofFn fun (i : Fin (t.extent.area * 4)) => d.residue i.val

/-- Copy a texture into a buffer, and the buffer's rows out of it. -/
def readBack (t : Texture) (row padded : Nat) : Job Device (Array UInt8) := do
  lookUp t
  let d ← Job.get
  return unpaddedRows (paddedRows (d.contents t) row padded t.extent.height) row padded
    t.extent.height

/-- Bring a texture to host memory, as color with alpha. -/
def download (f : GpuFrame) : Job Device Frame := do
  let t := f.texture
  if t.format ≠ TexelFormat.frame then Job.fault (.texture (.unreadableFormat t.format))
  else if !t.usage.contains .copySrc then Job.fault (.texture .unreadableUsage)
  else
    let row := t.extent.width * 4
    let padded := alignRow row
    if 1 <<< 32 ≤ row then Job.fault (.device .rowTooLong)
    else if 1 <<< 64 ≤ padded * t.extent.height then Job.fault (.device .readbackTooLarge)
    else
      let buffer ← createBuffer .readback (padded * t.extent.height)
      let bytes ← (readBack t row padded).cleanedBy (destroy buffer.id)
      match Frame.ofBytes t.extent .rgba bytes with
      | .ok frame => return frame
      | .error cause => Job.fault (.frame cause)

end Device

/-! ### Finding a device -/

/-- A graphics adapter, on which a device can be opened. -/
structure Adapter where
  /-- The name of the adapter. -/
  name : String
  /-- The device that it opens. -/
  device : Device := {}

/-- Open a device on the adapter, if there is one. -/
def openDevice (adapter : Option Adapter) : Except Fault Adapter :=
  match adapter with
  | some adapter => .ok adapter
  | none => .error (.device .noAdapter)

end Tint.Gpu
