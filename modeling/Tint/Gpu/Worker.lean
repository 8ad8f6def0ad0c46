import Tint.Gpu.Device

/-!
# Workers

A worker is a thread that owns a device and a state made from it. All work on them is
sent to it as jobs, which it does one at a time. A job that crashes ends the thread. Its
mailbox is closed last, after all that the thread owns is released, so that the job sent
next is still taken, and is dropped with the mailbox.

## The model

* `Thread` is the state of the thread, `Worker` what its owner holds: whether jobs are
  accepted, and whether the thread has been waited for.
* `Worker.run` is one caller at a time: it sends a job and waits for its result.
-/

namespace Tint.Gpu

/-- The thread of a worker with a state of type `σ`. -/
inductive Thread (σ : Type) where
  /-- It waits for jobs. -/
  | waiting (state : σ)
  /-- It crashed in a job, and its mailbox is not closed yet. -/
  | dying
  /-- It crashed in a job, and its mailbox is closed. -/
  | crashed
  /-- It ended because no job could come any more. -/
  | ended
deriving DecidableEq, Repr

/-- What the owner of a thread holds. -/
structure Worker (σ : Type) where
  /-- The thread. -/
  thread : Thread σ
  /-- Jobs can be sent. -/
  accepting : Bool := true
  /-- The thread has been waited for. -/
  joined : Bool := false
  /-- The name of the adapter that the device was opened on. -/
  adapter : String
deriving DecidableEq, Repr

/-- The thread after no job can come any more. -/
def Thread.finish {σ : Type} : Thread σ → Thread σ
  | .waiting _ => .ended
  | .dying => .crashed
  | other => other

namespace Worker

variable {σ α : Type}

/-- Start a thread that opens a device and makes its state from it. -/
def spawn (adapter : Option Adapter) (init : Device → Except (Halt Fault) σ) : Except Fault (Worker σ) := do
  let adapter ← openDevice adapter
  match init adapter.device with
  | .ok state => return { thread := .waiting state, adapter := adapter.name }
  | .error (.fault fault) => throw fault
  | .error .crash => throw (.device .startupEnded)

/-- The thread does a job: its result, and the thread after it. -/
def execute (job : Job σ α) : Thread σ → Except Fault α × Thread σ
  | .waiting state =>
    match job state with
    | (.ok a, state) => (.ok a, .waiting state)
    | (.error (.fault fault), state) => (.error fault, .waiting state)
    | (.error .crash, _) => (.error (.device .jobDropped), .dying)
  | .dying => (.error (.device .jobDropped), .crashed)
  | .crashed => (.error (.device .threadGone), .crashed)
  | .ended => (.error (.device .threadGone), .ended)

/-- Send a job and wait for its result. -/
def run (w : Worker σ) (job : Job σ α) : Except Fault α × Worker σ :=
  if w.accepting then
    let (result, thread) := execute job w.thread
    (result, { w with thread })
  else (.error (.device .shutDown), w)

/-- The worker has been shut down. -/
def isShutDown (w : Worker σ) : Bool := !w.accepting

/-- Accept no more jobs and wait for the thread. That it ended in a job is said once. -/
def shutdown (w : Worker σ) : Except Fault Unit × Worker σ :=
  if w.joined then (.ok (), { w with accepting := false })
  else
    let after := { w with accepting := false, joined := true, thread := w.thread.finish }
    match w.thread with
    | .dying | .crashed => (.error (.device .threadCrashed), after)
    | _ => (.ok (), after)

end Worker

end Tint.Gpu
