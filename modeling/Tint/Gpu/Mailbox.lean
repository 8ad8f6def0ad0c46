import Tint.Gpu.Worker

/-!
# Callers that share a worker

A worker may have many callers at once. Each sends its job and waits; the thread takes the
jobs in the order in which they were sent, and puts the result of each where only the
caller that sent it looks. Nothing is assumed of who comes next.

## The model

* `Call` is a job on its way, with the number that its caller waits for.
* `Mailbox` is a worker with the calls that its thread has not taken yet, and the results
  that their callers have not taken yet.
* `send`, `serve`, `receive` and `shutdown` are what a caller or the thread does.

## What is proved

* `Mailbox.call_result` and `Mailbox.call_worker`: a caller that has the worker for itself
  sees what `Worker.run` says.
-/

namespace Tint.Gpu

/-- A job on its way. -/
structure Call (σ α : Type) where
  /-- The number of the call. -/
  number : Nat
  /-- What is to be done. -/
  job : Job σ α

/-- A worker with many callers. -/
structure Mailbox (σ α : Type) where
  /-- The worker. -/
  worker : Worker σ
  /-- The calls that the thread has not taken, oldest first. -/
  pending : List (Call σ α) := []
  /-- The number of the next call. -/
  next : Nat := 0
  /-- The numbers of the calls whose jobs were begun, newest first. -/
  begun : List Nat := []
  /-- The results that were not taken, newest first. -/
  results : List (Nat × Except Fault α) := []

namespace Mailbox

variable {σ α : Type}

/-- Why a job cannot be sent. -/
def refusal? (w : Worker σ) : Option Fault :=
  if !w.accepting then some (.device .shutDown)
  else
    match w.thread with
    | .waiting _ | .dying => none
    | .crashed | .ended => some (.device .threadGone)

/-- Send a job. The caller gets the number to wait for. -/
def send (m : Mailbox σ α) (job : Job σ α) : Except Fault Nat × Mailbox σ α :=
  match refusal? m.worker with
  | some fault => (.error fault, m)
  | none =>
    (.ok m.next, { m with pending := m.pending ++ [⟨m.next, job⟩], next := m.next + 1 })

/-- The calls that were not taken, answered as dropped. -/
def dropped (pending : List (Call σ α)) : List (Nat × Except Fault α) :=
  pending.map fun call => (call.number, .error (.device .jobDropped))

/-- The thread takes the oldest call. If it crashed in a job, it closes the mailbox
instead, and what is in it is dropped. -/
def serve (m : Mailbox σ α) : Mailbox σ α :=
  match m.worker.thread, m.pending with
  | .waiting state, call :: pending =>
    let (result, thread) := Worker.execute call.job (.waiting state)
    { m with
      worker := { m.worker with thread }
      pending
      begun := call.number :: m.begun
      results := (call.number, result) :: m.results }
  | .dying, pending =>
    { m with
      worker := { m.worker with thread := .crashed }
      pending := []
      results := dropped pending.reverse ++ m.results }
  | _, _ => m

/-- A caller takes the result of its call, if it is there. -/
def receive (m : Mailbox σ α) (number : Nat) : Option (Except Fault α) × Mailbox σ α :=
  (m.results.lookup number, { m with results := m.results.eraseP (·.1 == number) })

/-- Accept no more jobs, let the thread take those that were sent, and wait for it. -/
def shutdown (m : Mailbox σ α) : Except Fault Unit × Mailbox σ α :=
  let served := Nat.repeat serve m.pending.length m
  let (joined, worker) := served.worker.shutdown
  (joined, { served with worker })

/-! ### One caller -/

/-- Send a job, let the thread take it, and take its result. -/
def call (m : Mailbox σ α) (job : Job σ α) : Option (Except Fault α) × Mailbox σ α :=
  match m.send job with
  | (.error fault, m) => (some (.error fault), m)
  | (.ok number, m) => m.serve.receive number

/-- A caller that has the worker for itself gets the result that the worker gives. -/
theorem call_result (m : Mailbox σ α) (job : Job σ α) (empty : m.pending = []) :
    (m.call job).1 = some (m.worker.run job).1 := by
  obtain ⟨⟨thread, accepting, joined, adapter⟩, pending, next, begun, results⟩ := m
  subst empty
  cases accepting <;> cases thread <;>
    simp [call, send, refusal?, serve, receive, Worker.run, Worker.execute, dropped]

/-- A caller that has the worker for itself leaves the worker as `Worker.run` does. -/
theorem call_worker (m : Mailbox σ α) (job : Job σ α) (empty : m.pending = []) :
    (m.call job).2.worker = (m.worker.run job).2 := by
  obtain ⟨⟨thread, accepting, joined, adapter⟩, pending, next, begun, results⟩ := m
  subst empty
  cases accepting <;> cases thread <;>
    simp [call, send, refusal?, serve, receive, Worker.run, Worker.execute, dropped]

end Mailbox

end Tint.Gpu
