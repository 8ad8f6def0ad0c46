import Tint.Engine
import Tint.Engine.Rows

/-!
# Recoloring in host memory

The executor for frames in host memory. Every pixel of a color frame is mixed toward
the target by the weight that the mask, brought to the size of the frame, has there.

## What is proved

* `recolor_extent` and `recolor_layout`: a recolored frame has the size and the
  channels of its source.
-/

namespace Tint

/-- An executor for frames in host memory. -/
structure CpuEngine where
  /-- The settings of the blend. -/
  settings : Settings
  /-- The executor has been shut down. -/
  closed : Bool := false
deriving DecidableEq, Repr

namespace CpuEngine

/-- The source recolored by a mask. Without a mask there is no output. -/
def recolor (e : CpuEngine) (source : Frame) (mask : Option Frame) :
    Except Fault (Option Frame) :=
  if e.closed then .error (.engine (.closed .cpu))
  else
    match mask with
    | none => .ok none
    | some mask =>
      if source.layout = .rgb then
        match mask.weights e.settings.channel source.extent with
        | .error halt => .error (.ofMask halt)
        | .ok weights => .ok (some (recolored source weights e.settings.scaledTarget))
      else .error (.engine (.notRgb source.layout))

/-- The frame of a resource, which has to be in host memory. -/
def expect (role : FrameRole) (r : Resource) : Except Fault Frame :=
  match r with
  | .host f => .ok f
  | .device _ => .error (.engine (.foreignFrame .cpu r.residency role))

/-- The source of a call recolored by its mask. -/
def process (e : CpuEngine) (image : Resource) (mask : Option Resource) :
    Except Fault (Option Resource) := do
  let source ← expect .image image
  let weights ←
    match mask with
    | none => pure none
    | some m => some <$> expect .mask m
  return (← e.recolor source weights).map .host

instance : Engine CpuEngine where
  residency _ := .cpu
  process e image mask := (e.process image mask, e)
  importFrame e frame := (.ok (.host frame), e)
  exportFrame e r := (expect .exported r, e)
  shutdown e := (.ok (), { e with closed := true })

theorem recolor_extent {e : CpuEngine} {source : Frame} {mask : Option Frame} {out : Frame}
    (h : e.recolor source mask = .ok (some out)) : out.extent = source.extent := by
  simp only [recolor] at h
  repeat' split at h
  all_goals simp_all [recolored]
  rw [← h]

theorem recolor_layout {e : CpuEngine} {source : Frame} {mask : Option Frame} {out : Frame}
    (h : e.recolor source mask = .ok (some out)) : out.layout = source.layout := by
  simp only [recolor] at h
  repeat' split at h
  all_goals simp_all [recolored]
  rw [← h]

end CpuEngine

end Tint
