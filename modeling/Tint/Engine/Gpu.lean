import Tint.Engine.Cpu
import Tint.Gpu.Renderer
import Tint.Gpu.Worker

/-!
# Recoloring on a graphics device

The executor for frames in the memory of a graphics device: a renderer that lives on a
worker of its own. `createEngine` makes the executor for either memory.
-/

namespace Tint

open Gpu

/-- An executor for frames in the memory of a graphics device. -/
structure GpuEngine where
  /-- The worker that owns the device. -/
  worker : Worker Studio
  /-- The settings of the blend. -/
  settings : Settings
  /-- The executor has been shut down. -/
  closed : Bool := false

namespace GpuEngine

/-- Open a device on a new worker. The shader program is made later. -/
def spawn (adapter : Option Adapter) (settings : Settings) : Except Fault GpuEngine := do
  let worker ← Worker.spawn adapter fun device => .ok ⟨device, { settings }⟩
  return { worker, settings }

/-- Do a job on the worker of an executor that is not shut down. -/
def run {α : Type} (e : GpuEngine) (job : Job Studio α) : Except Fault α × GpuEngine :=
  if e.closed then (.error (.engine (.closed .gpu)), e)
  else
    let (result, worker) := e.worker.run job
    (result, { e with worker })

/-- Make the shader program now. -/
def prepare (e : GpuEngine) : Except Fault Unit × GpuEngine := e.run Studio.prepare

/-- Whether the shader program is made. -/
def isPrepared (e : GpuEngine) : Except Fault Bool × GpuEngine :=
  e.run (do return (← Job.get).isPrepared)

/-- Recolor a frame by a mask. -/
def recolor (e : GpuEngine) (source : GpuFrame) (mask : Option GpuFrame) :
    Except Fault (Option GpuFrame) × GpuEngine :=
  e.run (Studio.process source mask)

/-- Copy a frame from host memory to a texture. -/
def upload (e : GpuEngine) (frame : Frame) : Except Fault GpuFrame × GpuEngine :=
  e.run (Studio.onDevice (Device.upload frame))

/-- Bring a texture to host memory. -/
def download (e : GpuEngine) (frame : GpuFrame) : Except Fault Frame × GpuEngine :=
  e.run (Studio.onDevice (Device.download frame))

/-- The frame of a resource, which has to be in the memory of a device. -/
def expect (role : FrameRole) (r : Resource) : Except Fault GpuFrame :=
  match r with
  | .device f => .ok f
  | .host _ => .error (.engine (.foreignFrame .gpu r.residency role))

/-- The frames of a call, both in the memory of a device. -/
def expectFrames (image : Resource) (mask : Option Resource) :
    Except Fault (GpuFrame × Option GpuFrame) := do
  let source ← expect .image image
  match mask with
  | none => return (source, none)
  | some mask => return (source, some (← expect .mask mask))

/-- The source of a call recolored by its mask. -/
def process (e : GpuEngine) (image : Resource) (mask : Option Resource) :
    Except Fault (Option Resource) × GpuEngine :=
  match expectFrames image mask with
  | .error fault => (.error fault, e)
  | .ok (source, mask) =>
    let (result, e) := e.recolor source mask
    (result.map (·.map .device), e)

/-- Release the program and shut the worker down. Doing so again does nothing. -/
def shutdown (e : GpuEngine) : Except Fault Unit × GpuEngine :=
  if e.closed then (.ok (), e)
  else
    let (released, worker) := e.worker.run Studio.release
    let (joined, worker) := worker.shutdown
    (joined.bind fun () => released, { e with worker, closed := true })

instance : Engine GpuEngine where
  residency _ := .gpu
  process := process
  importFrame e frame :=
    let (result, e) := e.upload frame
    (result.map .device, e)
  exportFrame e r :=
    match expect .exported r with
    | .error fault => (.error fault, e)
    | .ok frame => e.download frame
  shutdown := shutdown

end GpuEngine

/-- What graphics devices there are to work on. -/
inductive Platform where
  /-- The program knows nothing of graphics devices. -/
  | hostOnly
  /-- There is an adapter, or none. -/
  | graphics (adapter : Option Adapter)

/-- The executors of either memory. -/
abbrev AnyEngine : Type := CpuEngine ⊕ GpuEngine

/-- The executor for a memory. -/
def createEngine (platform : Platform) (residency : Residency) (settings : Settings) :
    Except Fault AnyEngine :=
  match residency, platform with
  | .cpu, _ => .ok (.inl { settings })
  | .gpu, .graphics adapter => .inr <$> GpuEngine.spawn adapter settings
  | .gpu, .hostOnly => .error (.engine .unavailable)

end Tint
