import Tint.Mix
import Tint.Plane

/-!
# Recoloring row by row

The rows of a frame can be recolored side by side. The buffer of the result, the bytes of
the source and the weights are each cut into chunks of a row, and the chunks of one number
make the job of a row: it reads its chunk of the source and of the weights, and writes to
its chunk of the result. What is written, and in which order, is kept apart from the
writing, so that any order of the jobs can be spoken of.

## The model

* `Stretch` is a run of places of a buffer. `Stretch.chunks` cuts a buffer so that the last
  stretch may be shorter, `Stretch.wholes` so that a shorter rest is left out.
* `RowJob` is the work on one row, `rowJobs` the work on a frame from top to bottom.
* `RowJob.writes` are the writes of a job, pixel by pixel; `rowWrites` are those of all jobs.
* `Write.all` is the buffer after writes, in the order given, to an empty buffer.

## What is proved

* `Write.size_all`: writing does not change the size of the buffer.
-/

namespace Tint

/-! ### Stretches -/

/-- A run of places of a buffer. -/
structure Stretch where
  /-- The first place. -/
  start : Nat
  /-- The number of places. -/
  length : Nat
deriving DecidableEq, Repr

namespace Stretch

/-- The stretches of `size` places that `total` places are cut into. The last one may be
shorter. -/
def chunks (size total : Nat) : List Stretch :=
  (List.range ((total + size - 1) / size)).map fun i => ⟨i * size, Nat.min size (total - i * size)⟩

/-- The stretches of exactly `size` places that `total` places are cut into. A shorter rest
is left out. -/
def wholes (size total : Nat) : List Stretch :=
  (List.range (total / size)).map fun i => ⟨i * size, size⟩

end Stretch

/-! ### Writes -/

/-- A byte that is put at a place of a buffer. -/
structure Write where
  /-- The place. -/
  place : Nat
  /-- The byte. -/
  byte : UInt8
deriving DecidableEq, Repr

namespace Write

/-- Put one byte. -/
def put (buffer : Array UInt8) (w : Write) : Array UInt8 := buffer.setIfInBounds w.place w.byte

/-- A buffer of `size` bytes after writes. -/
def all (size : Nat) (writes : List Write) : Array UInt8 :=
  writes.foldl put (Array.replicate size 0)

/-- Writing does not change the size of a buffer. -/
theorem size_foldl_put (writes : List Write) (buffer : Array UInt8) :
    (writes.foldl put buffer).size = buffer.size := by
  induction writes generalizing buffer with
  | nil => rfl
  | cons w rest ih => rw [List.foldl_cons, ih, put, Array.size_setIfInBounds]

@[simp] theorem size_all (size : Nat) (writes : List Write) : (all size writes).size = size := by
  rw [all, size_foldl_put, Array.size_replicate]

/-- The writes of a color whose first channel is put at `start`. -/
def ofColor (start : Nat) (c : Color) : List Write :=
  [⟨start, c.r⟩, ⟨start + 1, c.g⟩, ⟨start + 2, c.b⟩]

end Write

/-! ### Rows -/

/-- The color whose first channel is at a place. -/
def colorAt (bytes : Array UInt8) (place : Nat) : Color :=
  ⟨bytes.getD place 0, bytes.getD (place + 1) 0, bytes.getD (place + 2) 0⟩

/-- The work on one row. -/
structure RowJob where
  /-- Where the row is written. -/
  into : Stretch
  /-- Where the row is read. -/
  colors : Stretch
  /-- Where the weights of the row are read. -/
  weights : Stretch
deriving DecidableEq, Repr

/-- The writes of a job, from the bytes of the source and the weights. -/
def RowJob.writes (colors weights : Array UInt8) (target : Rgb Single) (job : RowJob) :
    List Write :=
  let pixels := (Stretch.wholes 3 job.into.length).zip
    ((Stretch.wholes 3 job.colors.length).zip (List.range job.weights.length))
  pixels.flatMap fun (into, color, x) =>
    Write.ofColor (job.into.start + into.start)
      (Mix.pixel (colorAt colors (job.colors.start + color.start))
        (weights.getD (job.weights.start + x) 0) target)

/-- The work on a frame, row by row from top to bottom. -/
def rowJobs (source : Frame) (weights : Plane) : List RowJob :=
  let rows := Stretch.chunks source.stride source.bytes.size
  let weightRows := Stretch.chunks source.extent.width weights.bytes.size
  (rows.zip (rows.zip weightRows)).map fun (into, colors, weights) => ⟨into, colors, weights⟩

/-- The writes of jobs, one job after the other. -/
def rowWrites (source : Frame) (weights : Plane) (target : Rgb Single) (jobs : List RowJob) :
    List Write :=
  jobs.flatMap (RowJob.writes source.bytes weights.bytes target)

/-- The recolored frame: what its rows, from top to bottom, have written. -/
def recolored (source : Frame) (weights : Plane) (target : Rgb Single) : Frame where
  extent := source.extent
  layout := source.layout
  bytes := Write.all source.bytes.size (rowWrites source weights target (rowJobs source weights))
  nonempty := source.nonempty
  size_eq := by rw [Write.size_all, source.size_eq]

end Tint
