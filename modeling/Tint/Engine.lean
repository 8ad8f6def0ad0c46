import Tint.Fault

/-!
# Executors

An executor recolors frames that live in one memory. A node is handed one when it is
opened and does not look at the memory of frames again.

## The model

* `Resource` is a frame in either memory.
* `Engine` is what a type of executors has to offer. A call gives an answer and the
  executor after it, so that an executor may keep a state and may behave as it likes.
* Executors of two types are together executors of their sum type.
-/

namespace Tint

/-- A frame in host memory or in that of a graphics device. -/
inductive Resource where
  /-- A frame in host memory. -/
  | host (frame : Frame)
  /-- A frame in the memory of a graphics device. -/
  | device (frame : Gpu.GpuFrame)

namespace Resource

/-- The memory that the frame lives in. -/
def residency : Resource → Residency
  | host _ => .cpu
  | device _ => .gpu

/-- The width and height. -/
def extent : Resource → Extent
  | host f => f.extent
  | device f => f.extent

/-- The frame, if it is in host memory. -/
def host? : Resource → Option Frame
  | host f => some f
  | device _ => none

/-- The frame, which has to be in host memory. -/
def toHost : Resource → Except Fault Frame
  | host f => .ok f
  | device f => .error (.engine (.notHost (device f).residency))

end Resource

/-- What executors offer. -/
class Engine (ε : Type) where
  /-- The memory of the frames that the executor takes and gives. -/
  residency : ε → Residency
  /-- Recolor an image by a mask. Without a mask there is no output. -/
  process : ε → Resource → Option Resource → Except Fault (Option Resource) × ε
  /-- Bring a frame from host memory into the executor's memory. -/
  importFrame : ε → Frame → Except Fault Resource × ε
  /-- Bring a frame from the executor's memory into host memory. -/
  exportFrame : ε → Resource → Except Fault Frame × ε
  /-- Release what the executor holds. -/
  shutdown : ε → Except Fault Unit × ε

namespace Engine

/-- A call on an executor within a larger state. -/
def lift {α β γ : Type} (wrap : α → β) (answer : γ × α) : γ × β := (answer.1, wrap answer.2)

/-- Executors of two types. -/
instance {α β : Type} [Engine α] [Engine β] : Engine (α ⊕ β) where
  residency
    | .inl e => residency e
    | .inr e => residency e
  process
    | .inl e, image, mask => lift .inl (process e image mask)
    | .inr e, image, mask => lift .inr (process e image mask)
  importFrame
    | .inl e, frame => lift .inl (importFrame e frame)
    | .inr e, frame => lift .inr (importFrame e frame)
  exportFrame
    | .inl e, frame => lift .inl (exportFrame e frame)
    | .inr e, frame => lift .inr (exportFrame e frame)
  shutdown
    | .inl e => lift .inl (shutdown e)
    | .inr e => lift .inr (shutdown e)

end Engine

end Tint
