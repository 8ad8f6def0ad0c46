import Tint.Json.Failure
import Tint.Color
import Tint.Gpu.Texture
import Tint.Plane
import Tint.Stream
import Tint.Timestamp

/-!
# Faults

Why an operation comes to nothing. A fault names its cause; its kind and its wording follow
from the cause. A mask that is absent is no fault: there is then no output.

## The model

* Each part of the library has its own causes; `Fault` is their union.
* `Fault.raised` is a fault of code that a caller supplies, with wording of its own.
* `Fault.chain` is a fault of the surroundings: its outermost context, then what lies
  below it.
* `Fault.crash` is no error but the end of the program in the middle of a call. It has a kind
  of its own and no wording.
-/

namespace Tint

/-- The stage of a node's life. -/
inductive NodeStage where
  /-- Made, not yet open. -/
  | uninitialized
  /-- Open. -/
  | ready
  /-- Closed for good. -/
  | closed
deriving DecidableEq, Repr

/-- The name of a stage. -/
def NodeStage.name : NodeStage → String
  | uninitialized => "Uninitialized"
  | ready => "Ready"
  | closed => "Closed"

/-- What a node may be asked to do at one stage only. -/
inductive NodeCall where
  /-- Bind it to streams. -/
  | opening
  /-- Recolor a frame. -/
  | processing
  /-- Take a frame in from host memory. -/
  | importing
  /-- Bring a frame to host memory. -/
  | exporting
deriving DecidableEq, Repr

/-- The verb of a call. -/
def NodeCall.verb : NodeCall → String
  | opening => "open"
  | processing => "process"
  | importing => "import"
  | exporting => "export"

/-- The part that a frame plays in a call. -/
inductive FrameRole where
  /-- The picture to recolor. -/
  | image
  /-- The weights. -/
  | mask
  /-- A frame to bring to host memory. -/
  | exported
deriving DecidableEq, Repr

/-- The text of a part. -/
def FrameRole.text : FrameRole → String
  | image => "image"
  | mask => "mask"
  | exported => "exported"

/-- Why a node refuses a call. -/
inductive NodeError where
  /-- The call is not for this stage. -/
  | wrongStage (call : NodeCall) (stage : NodeStage)
  /-- A time is not after that of the last frame. -/
  | notAfter (time last : Timestamp)
  /-- A frame is not in the memory of the node's streams. -/
  | wrongMemory (role : FrameRole) (found expected : Residency)
  /-- An executor is not for the memory of the streams. -/
  | wrongEngine (streams engine : Residency)
  /-- An open node has no executor. -/
  | noEngine (call : NodeCall)
deriving DecidableEq, Repr

/-- The wording of the error. -/
def NodeError.text : NodeError → String
  | wrongStage call stage => "cannot " ++ call.verb ++ " a node in state " ++ stage.name
  | notAfter time last =>
    "timestamp " ++ time.text ++ " is not after previous timestamp " ++ last.text
  | wrongMemory role found expected =>
    role.text ++ " frame is " ++ found.text ++ " but the node expects " ++ expected.text
  | wrongEngine streams engine =>
    "streams are " ++ streams.text ++ " but the executor is " ++ engine.text
  | noEngine call => "cannot " ++ call.verb ++ ": node has no executor"

/-- Why an executor refuses a call. -/
inductive EngineError where
  /-- The executor has been shut down. -/
  | closed (engine : Residency)
  /-- A frame is not in the executor's memory. -/
  | foreignFrame (engine frame : Residency) (role : FrameRole)
  /-- The picture to recolor does not have the three channels of a color. -/
  | notRgb (layout : PixelLayout)
  /-- A frame that should be in host memory is not. -/
  | notHost (found : Residency)
  /-- There is no executor for graphics devices. -/
  | unavailable
deriving DecidableEq, Repr

/-- The wording of the error. -/
def EngineError.text : EngineError → String
  | closed engine => engine.text ++ " executor is closed"
  | foreignFrame engine frame role =>
    engine.text ++ " executor received a " ++ frame.text ++ " " ++ role.text ++ " frame"
  | notRgb layout => "cpu recolor expects an RGB8 source, got " ++ layout.name
  | notHost found => "expected a cpu frame, got a " ++ found.text ++ " frame"
  | unavailable =>
    "requested gpu executor is not available (built without the `gpu` feature)"

namespace Gpu

/-- Why a texture does not fit a call. -/
inductive TextureError where
  /-- A side is zero or above the limit of the device. -/
  | outsideLimit (extent : Extent) (limit : Nat)
  /-- A texture to read back has another format. -/
  | unreadableFormat (format : TexelFormat)
  /-- A texture to read back may not be copied from. -/
  | unreadableUsage
  /-- A texture to sample has another format. -/
  | unsampledFormat (role : FrameRole) (format : TexelFormat)
  /-- A texture to sample may not be sampled. -/
  | unsampledUsage (role : FrameRole)
deriving DecidableEq, Repr

/-- The wording of the error. -/
def TextureError.text : TextureError → String
  | outsideLimit e limit =>
    "texture size " ++ e.text ++ " outside 1..=" ++ toString limit
  | unreadableFormat format =>
    "download expects a " ++ TexelFormat.frame.name ++ " texture, got " ++ format.name
  | unreadableUsage => "download expects a texture created with COPY_SRC usage"
  | unsampledFormat role format =>
    role.text ++ " texture must be " ++ TexelFormat.frame.name ++ ", got " ++ format.name
  | unsampledUsage role =>
    role.text ++ " texture was not created with TEXTURE_BINDING usage"

/-- What fails in a graphics device or in the thread that owns it. -/
inductive DeviceError where
  /-- There is no graphics device. -/
  | noAdapter
  /-- The device does not accept the shader program. -/
  | setupFailed (report : String)
  /-- The device does not accept a pass. -/
  | passFailed (report : String)
  /-- The shader program is missing. -/
  | noProgram
  /-- The length of a row is not a number of 32 bits. -/
  | rowTooLong
  /-- The number of bytes to read back is not a number of 64 bits. -/
  | readbackTooLarge
  /-- The worker has been shut down. -/
  | shutDown
  /-- The worker's thread has ended. -/
  | threadGone
  /-- The worker's thread ended in the job. -/
  | jobDropped
  /-- The worker's thread had ended in a job before it was asked to. -/
  | threadCrashed
  /-- The worker's thread ended before it was ready. -/
  | startupEnded
deriving DecidableEq, Repr

/-- The wording of the error. -/
def DeviceError.text : DeviceError → String
  | noAdapter => "no gpu adapter available"
  | setupFailed report => "recolor program setup failed: " ++ report
  | passFailed report => "recolor pass failed: " ++ report
  | noProgram => "recolor program not initialized"
  | rowTooLong => "readback width overflow"
  | readbackTooLarge => "readback buffer size overflow"
  | shutDown => "gpu worker has shut down"
  | threadGone => "gpu worker thread is gone"
  | jobDropped => "gpu worker dropped the job (thread panicked?)"
  | threadCrashed => "gpu worker thread panicked"
  | startupEnded => "gpu worker exited during startup"

end Gpu

/-- The kind of a fault. -/
inductive FaultKind where
  /-- Invalid or missing setup. -/
  | configuration
  /-- A frame or a call that is not allowed. -/
  | contractViolation
  /-- A failing graphics device. -/
  | gpuResource
  /-- A text that is not a value. -/
  | serialization
  /-- A failing surrounding. -/
  | other
  /-- No error: the call does not return. -/
  | crash
deriving DecidableEq, Repr

/-- What the message of a fault starts with. -/
def FaultKind.heading : FaultKind → String
  | configuration => "configuration error: "
  | contractViolation => "contract violation: "
  | gpuResource => "gpu resource error: "
  | serialization => "serialization error: "
  | other => ""
  | crash => ""

/-- Why an operation comes to nothing. -/
inductive Fault where
  /-- Bytes are not a frame. -/
  | frame (cause : FrameError)
  /-- A mask has no weights. -/
  | mask (cause : MaskError)
  /-- Text is not a color. -/
  | color (cause : ColorError)
  /-- Options are refused. -/
  | options (cause : OptionsError)
  /-- A binding is not accepted. -/
  | binding (cause : BindingError)
  /-- A text is not a configuration. -/
  | config (cause : Json.Failure)
  /-- A node refuses a call. -/
  | node (cause : NodeError)
  /-- An executor refuses a call. -/
  | engine (cause : EngineError)
  /-- A texture does not fit a call. -/
  | texture (cause : Gpu.TextureError)
  /-- A graphics device fails. -/
  | device (cause : Gpu.DeviceError)
  /-- Code that a caller supplies fails. -/
  | raised (kind : FaultKind) (text : String)
  /-- The surroundings fail. -/
  | chain (outermost : String) (below : List String)
  /-- The program crashes. -/
  | crash
deriving DecidableEq, Repr

namespace Fault

/-- A mask comes to no weights. -/
def ofMask : Halt MaskError → Fault
  | .fault cause => mask cause
  | .crash => crash

/-- The kind of a fault. -/
def kind : Fault → FaultKind
  | frame _ => .contractViolation
  | mask _ => .contractViolation
  | color _ => .configuration
  | options _ => .configuration
  | binding _ => .configuration
  | config _ => .serialization
  | node (.wrongEngine ..) => .configuration
  | node _ => .contractViolation
  | engine .unavailable => .configuration
  | engine _ => .contractViolation
  | texture _ => .contractViolation
  | device _ => .gpuResource
  | raised kind _ => kind
  | chain .. => .other
  | crash => .crash

/-- The wording of a fault without its heading. -/
def detail : Fault → String
  | frame cause => cause.text
  | mask cause => cause.text
  | color cause => cause.text
  | options cause => cause.text
  | binding cause => cause.text
  | config cause => "node config: " ++ cause.text
  | node cause => cause.text
  | engine cause => cause.text
  | texture cause => cause.text
  | device cause => cause.text
  | raised _ text => text
  | chain outermost _ => outermost
  | crash => ""

/-- The message of a fault. -/
def message (f : Fault) : String := f.kind.heading ++ f.detail

/-- What lies below the message, from the outside in. -/
def causes : Fault → List String
  | chain _ below => below
  | _ => []

/-- The message and all that lies below it. -/
def fullMessage (f : Fault) : String := String.intercalate ": " (f.message :: f.causes)

/-- The fault within a context. Nothing is added to a crash. -/
def within (context : String) : Fault → Fault
  | crash => crash
  | f => chain context (f.message :: f.causes)

/-- Text with each line after the first one moved in by `margin`. -/
def hanging (margin text : String) : String :=
  String.ofList (text.toList.flatMap fun c => if c = '\n' then c :: margin.toList else [c])

/-- The report of a fault that ends a program. Several causes are numbered. -/
def report (f : Fault) : String :=
  "Error: " ++ f.message ++ "\n" ++
    match f.causes with
    | [] => ""
    | [cause] => "\nCaused by:\n    " ++ hanging "    " cause ++ "\n"
    | causes =>
      "\nCaused by:\n" ++
        String.join (causes.zipIdx.map fun (cause, i) =>
          "    " ++ toString i ++ ": " ++ hanging "       " cause ++ "\n")

end Fault

end Tint
