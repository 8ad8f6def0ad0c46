import Mathlib.Logic.Function.Basic
import Tint.Proofs.Gpu.Queue

/-!
# Callers that share a worker

Any number of callers share a worker. Each sends a job, waits for its result and goes on; the
thread of the worker takes the jobs when it gets to them. Whoever comes next, a caller sees what
it would see if the jobs were done one after the other, in the order in which they were sent, and
every caller that waits will get its result.

## The model

* `Crew` is a mailbox with its callers, of which some wait. A `Turn` says who comes next: nothing is
  assumed of that, and a turn of a caller that cannot have it does nothing.
* `Happening` is what is seen of a turn, and a story is all that was seen, oldest first.
* `Serial` says of a story that the jobs were done one after the other.

While the thread is in a job, others can only send more jobs and take results that are there; what
they see then does not depend on how far the job is. So taking a call and doing its job is one turn.

## What is proved

* `Crew.run_serial`: every story is as it should be, and nobody waits for nothing.
-/

namespace Tint.Gpu

/-- Callers, told apart by `κ`, that share a worker. -/
structure Crew (κ σ α : Type) where
  /-- The mailbox of the worker. -/
  mailbox : Mailbox σ α
  /-- The number of the call that a caller waits for. -/
  waiting : κ → Option Nat := fun _ => none

/-- Who comes next. -/
inductive Turn (κ σ α : Type) where
  /-- A caller asks for a job to be done, unless it waits for another one. -/
  | call (who : κ) (job : Job σ α)
  /-- The thread takes a call. -/
  | serve
  /-- A caller that waits looks for its result. -/
  | wake (who : κ)
  /-- The worker is shut down. -/
  | shutdown

/-- What is seen of a turn. -/
inductive Happening (κ σ α : Type) where
  /-- A job was sent under a number. Its caller waits now. -/
  | sent (who : κ) (number : Nat) (job : Job σ α)
  /-- A job could not be sent. Its caller knows. -/
  | refused (who : κ) (fault : Fault)
  /-- The job of a number was begun. -/
  | began (number : Nat)
  /-- A caller got the result of its call. -/
  | returned (who : κ) (number : Nat) (result : Except Fault α)
  /-- The worker was shut down. -/
  | closed (answer : Except Fault Unit)

namespace Happening

variable {κ σ α : Type}

/-- What was sent: the caller, the number and the job. -/
def sent? : Happening κ σ α → Option (κ × Nat × Job σ α)
  | sent who number job => some (who, number, job)
  | _ => none

/-- The number of what was begun. -/
def began? : Happening κ σ α → Option Nat
  | began number => some number
  | _ => none

/-- What a caller got: the caller, the number of its call and the result. -/
def returned? : Happening κ σ α → Option (κ × Nat × Except Fault α)
  | returned who number result => some (who, number, result)
  | _ => none

/-- The answer to shutting down. -/
def closed? : Happening κ σ α → Option (Except Fault Unit)
  | closed answer => some answer
  | _ => none

end Happening

/-! ### Stories -/

section

variable {κ σ α : Type}

/-- What was sent in a story, oldest first. -/
def sends (story : List (Happening κ σ α)) : List (κ × Nat × Job σ α) :=
  story.filterMap Happening.sent?

/-- The jobs that were sent, oldest first. -/
def jobsOf (story : List (Happening κ σ α)) : List (Job σ α) := (sends story).map (·.2.2)

/-- The numbers of the jobs that were begun, oldest first. -/
def begins (story : List (Happening κ σ α)) : List Nat := story.filterMap Happening.began?

/-- What callers got, oldest first. -/
def returns (story : List (Happening κ σ α)) : List (κ × Nat × Except Fault α) :=
  story.filterMap Happening.returned?

/-- The answers to shutting down, oldest first. -/
def closings (story : List (Happening κ σ α)) : List (Except Fault Unit) :=
  story.filterMap Happening.closed?

@[simp] theorem sends_append (a b : List (Happening κ σ α)) : sends (a ++ b) = sends a ++ sends b :=
  List.filterMap_append

@[simp] theorem jobsOf_append (a b : List (Happening κ σ α)) :
    jobsOf (a ++ b) = jobsOf a ++ jobsOf b := by
  simp [jobsOf]

@[simp] theorem begins_append (a b : List (Happening κ σ α)) :
    begins (a ++ b) = begins a ++ begins b :=
  List.filterMap_append

@[simp] theorem returns_append (a b : List (Happening κ σ α)) :
    returns (a ++ b) = returns a ++ returns b :=
  List.filterMap_append

@[simp] theorem closings_append (a b : List (Happening κ σ α)) :
    closings (a ++ b) = closings a ++ closings b :=
  List.filterMap_append

theorem filterMap_concat_none {β : Type} {take : Happening κ σ α → Option β}
    {story : List (Happening κ σ α)} {event : Happening κ σ α} (passed : take event = none) :
    (story ++ [event]).filterMap take = story.filterMap take := by
  rw [List.filterMap_append, List.filterMap_cons_none passed, List.filterMap_nil, List.append_nil]

end

namespace Crew

variable {κ σ α : Type}

/-- What is seen of the thread while `m` becomes `m'`: the jobs that it began, oldest first, and
what was said at the end. -/
def work (m m' : Mailbox σ α) (said : List (Except Fault Unit)) : List (Happening κ σ α) :=
  (m'.begun.reverse.drop m.begun.length).map .began ++ said.map .closed

section

variable [DecidableEq κ]

/-- One turn. -/
def turn (c : Crew κ σ α) : Turn κ σ α → List (Happening κ σ α) × Crew κ σ α
  | .call who job =>
    match c.waiting who with
    | some _ => ([], c)
    | none =>
      match c.mailbox.send job with
      | (.error fault, mailbox) => ([.refused who fault], { c with mailbox })
      | (.ok number, mailbox) =>
        ([.sent who number job], ⟨mailbox, Function.update c.waiting who (some number)⟩)
  | .serve => (work c.mailbox c.mailbox.serve [], { c with mailbox := c.mailbox.serve })
  | .wake who =>
    match c.waiting who with
    | none => ([], c)
    | some number =>
      match c.mailbox.receive number with
      | (none, _) => ([], c)
      | (some result, mailbox) =>
        ([.returned who number result], ⟨mailbox, Function.update c.waiting who none⟩)
  | .shutdown =>
    (work c.mailbox c.mailbox.shutdown.2 [c.mailbox.shutdown.1],
      { c with mailbox := c.mailbox.shutdown.2 })

/-- Turns one after the other: the story, and what comes of the crew. -/
def run (c : Crew κ σ α) : List (Turn κ σ α) → List (Happening κ σ α) × Crew κ σ α
  | [] => ([], c)
  | first :: rest =>
    let (events, c) := c.turn first
    let (story, c) := c.run rest
    (events ++ story, c)

end

/-- A worker with nothing to do, and nobody who waits. -/
def start (s : σ) (adapter : String) : Crew κ σ α := { mailbox := .start s adapter }

/-- **The jobs of a story were done one after the other**, in the order in which they were sent. -/
structure Serial (s : σ) (story : List (Happening κ σ α)) : Prop where
  /-- Calls are numbered in the order in which they were sent. -/
  numbered : (sends story).map (·.2.1) = List.range (sends story).length
  /-- Jobs were begun in the order of their numbers, none of them twice. -/
  begun : begins story = List.range (begins story).length
  /-- What was begun had been sent. -/
  begun_le : (begins story).length ≤ (sends story).length
  /-- Whoever got a result had sent the job of that number, and the result is that of the job on
  the state that the jobs before it left. -/
  returned : ∀ who number result, (who, number, result) ∈ returns story →
    ∃ job, (sends story)[number]? = some (who, number, job) ∧
      result = (job.perform (left s ((jobsOf story).take number))).1
  /-- No call gave two results. -/
  returned_once : ((returns story).map (·.2.1)).Nodup
  /-- A call that gave a result was begun, unless a job before it crashed. -/
  returned_begun : ∀ who number result, (who, number, result) ∈ returns story →
    number ∈ begins story ∨ left s ((jobsOf story).take number) = none
  /-- After a job that crashed none is begun. -/
  lost_begun : ∀ number, left s ((jobsOf story).take (number + 1)) = none →
    ∀ other ∈ begins story, other ≤ number
  /-- A job that crashed and the jobs after it fail on the part of the device. -/
  lost_returned : ∀ number, left s ((jobsOf story).take (number + 1)) = none →
    ∀ who later result, (who, later, result) ∈ returns story → number ≤ later →
      ∃ fault, result = .error fault ∧ fault.kind = .gpuResource
  /-- A job is refused only after shutting down or after a crash, and then on the part of the
  device. -/
  refused : ∀ who fault, .refused who fault ∈ story → fault.kind = .gpuResource ∧
    (closings story ≠ [] ∨ left s ((jobsOf story).take (begins story).length) = none)
  /-- After shutting down no job is sent and none is begun. -/
  quiet : story.Pairwise fun first later =>
    first.closed?.isSome → later.sent? = none ∧ later.began? = none
  /-- Shutting down says once that the thread crashed. -/
  closed : closings story = [] ∨ ∃ rest,
    closings story = (if (left s (jobsOf story)).isSome then .ok ()
      else .error (.device .threadCrashed)) :: rest ∧ ∀ answer ∈ rest, answer = .ok ()

section

variable [DecidableEq κ]

/-- The thread takes calls until none is left. -/
def catchUp (c : Crew κ σ α) : List (Happening κ σ α) × Crew κ σ α :=
  c.run (List.replicate c.mailbox.pending.length .serve)

/-- **Nobody waits for nothing**: what comes next, after `story`. -/
structure Lively (s : σ) (story : List (Happening κ σ α)) (c : Crew κ σ α) : Prop where
  /-- Who waits gets a result when the thread is through. -/
  answers : ∀ who number, c.waiting who = some number →
    ∃ result, (c.catchUp.2.turn (.wake who)).1 = [.returned who number result]
  /-- Every job that was sent is begun when the thread is through, unless one before it crashed. -/
  all_begun : ∀ number < (jobsOf story).length, (left s ((jobsOf story).take number)).isSome →
    number ∈ begins (story ++ c.catchUp.1)
  /-- A job is taken in, unless the worker was shut down or a job that was begun crashed. -/
  accepts : ∀ who job, c.waiting who = none → closings story = [] →
    (left s ((jobsOf story).take (begins story).length)).isSome →
      (c.turn (.call who job)).1 = [.sent who (jobsOf story).length job]
  /-- No job is taken in after shutting down. -/
  refuses : ∀ who job, c.waiting who = none → closings story ≠ [] →
    c.turn (.call who job) = ([.refused who (.device .shutDown)], c)

end

/-! ### What is seen of the thread -/

section

variable (m m' : Mailbox σ α) (said : List (Except Fault Unit))

theorem sends_work : sends (work m m' said : List (Happening κ σ α)) = [] := by
  rw [work, sends, List.filterMap_append, List.filterMap_map, List.filterMap_map]
  simp [Function.comp_def, Happening.sent?]

theorem returns_work : returns (work m m' said : List (Happening κ σ α)) = [] := by
  rw [work, returns, List.filterMap_append, List.filterMap_map, List.filterMap_map]
  simp [Function.comp_def, Happening.returned?]

theorem begins_work :
    begins (work m m' said : List (Happening κ σ α)) = m'.begun.reverse.drop m.begun.length := by
  rw [work, begins, List.filterMap_append, List.filterMap_map, List.filterMap_map]
  simp [Function.comp_def, Happening.began?]

theorem closings_work : closings (work m m' said : List (Happening κ σ α)) = said := by
  rw [work, closings, List.filterMap_append, List.filterMap_map, List.filterMap_map]
  simp [Function.comp_def, Happening.closed?]

variable {m m' said}

theorem mem_work {event : Happening κ σ α} (member : event ∈ work m m' said) :
    (∃ number ∈ m'.begun.reverse.drop m.begun.length, event = .began number) ∨
      ∃ answer, event = .closed answer := by
  rcases List.mem_append.1 member with began | ended
  · obtain ⟨number, known, rfl⟩ := List.mem_map.1 began
    exact .inl ⟨number, known, rfl⟩
  · obtain ⟨answer, -, rfl⟩ := List.mem_map.1 ended
    exact .inr ⟨answer, rfl⟩

end

/-! ### What every turn keeps -/

/-- What was said to those who shut the worker down. -/
inductive Closings (s : σ) (jobs : List (Job σ α)) (w : Worker σ) :
    List (Except Fault Unit) → Prop where
  /-- Nothing yet: jobs can be sent. -/
  | none (accepting : w.accepting = true) (joined : w.joined = false) : Closings s jobs w []
  /-- First whether the thread crashed, then nothing. -/
  | some (accepting : w.accepting = false) (joined : w.joined = true)
    {rest : List (Except Fault Unit)} (fine : ∀ answer ∈ rest, answer = .ok ()) :
    Closings s jobs w (Mailbox.farewell false (left s jobs) :: rest)

/-- What is true of a crew and all that was seen of it. -/
structure Keeps (s : σ) (story : List (Happening κ σ α)) (c : Crew κ σ α) : Prop where
  /-- The mailbox does the jobs one after the other. -/
  follows : c.mailbox.Follows s (jobsOf story) ((returns story).map (·.2.1))
  /-- Calls are numbered in the order in which they were sent. -/
  numbered : (sends story).map (·.2.1) = List.range (sends story).length
  /-- All that was begun was seen. -/
  begins_eq : begins story = List.range c.mailbox.begun.length
  /-- Who waits had sent a job, and got no result for it. -/
  waiting : ∀ who number, c.waiting who = some number →
    number ∉ (returns story).map (·.2.1) ∧ ∃ job, (sends story)[number]? = some (who, number, job)
  /-- Who got a result had sent the job, and the job was begun unless one before it crashed. -/
  returned : ∀ who number result, (who, number, result) ∈ returns story →
    (∃ job, (sends story)[number]? = some (who, number, job)) ∧
      resultOf? s (jobsOf story) number = some result ∧
      (number < c.mailbox.begun.length ∨ left s ((jobsOf story).take number) = none)
  /-- Jobs are refused after shutting down and after a crash. -/
  refused : ∀ who fault, .refused who fault ∈ story → fault.kind = .gpuResource ∧
    (closings story ≠ [] ∨ left s ((jobsOf story).take c.mailbox.begun.length) = none)
  /-- After shutting down no job is sent and none is begun. -/
  quiet : story.Pairwise fun first later =>
    first.closed?.isSome → later.sent? = none ∧ later.began? = none
  /-- The worker is shut down if that was seen. -/
  closed : Closings s (jobsOf story) c.mailbox.worker (closings story)

variable {s : σ} {story : List (Happening κ σ α)} {c : Crew κ σ α}

theorem keeps_start (s : σ) (adapter : String) : Keeps s [] (start s adapter : Crew κ σ α) where
  follows := Mailbox.follows_start s adapter
  numbered := rfl
  begins_eq := rfl
  waiting := by simp [start]
  returned := by simp [returns]
  refused := by simp
  quiet := .nil
  closed := .none rfl rfl

theorem Closings.accepting_iff {jobs : List (Job σ α)} {w : Worker σ}
    {answers : List (Except Fault Unit)} (h : Closings s jobs w answers) :
    w.accepting = true ↔ answers = [] := by
  cases h with
  | none accepting _ => simp [accepting]
  | some accepting _ _ => simp [accepting]

theorem Closings.congr {jobs : List (Job σ α)} {w w' : Worker σ}
    {answers : List (Except Fault Unit)} (h : Closings s jobs w answers)
    (accepting : w'.accepting = w.accepting) (joined : w'.joined = w.joined) :
    Closings s jobs w' answers := by
  cases h with
  | none accepted waited => exact .none (accepting.trans accepted) (joined.trans waited)
  | some accepted waited fine => exact .some (accepting.trans accepted) (joined.trans waited) fine

/-- Shutting down tells of a crash if nobody was told before. -/
theorem Closings.close {jobs : List (Job σ α)} {w w' : Worker σ}
    {answers : List (Except Fault Unit)} (h : Closings s jobs w answers)
    (accepting : w'.accepting = false) (joined : w'.joined = true) :
    Closings s jobs w' (answers ++ [Mailbox.farewell w.joined (left s jobs)]) := by
  cases h with
  | none _ waited =>
    rw [waited]
    exact .some accepting joined (by simp)
  | some _ waited fine =>
    rw [waited]
    refine .some accepting joined ?_
    intro answer member
    rcases List.mem_append.1 member with early | late
    · exact fine answer early
    · rw [List.mem_singleton.1 late]
      rfl

theorem closed?_of_open (noClosing : closings story = []) {event : Happening κ σ α}
    (member : event ∈ story) : event.closed? = none :=
  List.filterMap_eq_nil_iff.1 noClosing event member

/-- What is seen later keeps quiet if only an open worker takes jobs in or begins them. -/
theorem quiet_append {later : List (Happening κ σ α)}
    (before : story.Pairwise fun first later =>
      first.closed?.isSome → later.sent? = none ∧ later.began? = none)
    (after : later.Pairwise fun first later =>
      first.closed?.isSome → later.sent? = none ∧ later.began? = none)
    (between : closings story ≠ [] → ∀ event ∈ later, event.sent? = none ∧ event.began? = none) :
    (story ++ later).Pairwise fun first later =>
      first.closed?.isSome → later.sent? = none ∧ later.began? = none := by
  refine List.pairwise_append.2 ⟨before, after, ?_⟩
  intro first member event late closed
  refine between (fun noClosing => ?_) event late
  rw [closed?_of_open noClosing member] at closed
  cases closed

@[simp] theorem length_jobsOf : (jobsOf story).length = (sends story).length :=
  List.length_map _

/-- The job of a call. -/
theorem jobsOf_getElem? {who : κ} {number : Nat} {job : Job σ α}
    (sent : (sends story)[number]? = some (who, number, job)) :
    (jobsOf story)[number]? = some job := by
  rw [jobsOf, List.getElem?_map, sent]
  rfl

theorem lt_of_sent {call : κ × Nat × Job σ α} {number : Nat}
    (sent : (sends story)[number]? = some call) : number < (jobsOf story).length := by
  rw [length_jobsOf]
  exact (List.getElem?_eq_some_iff.1 sent).1

/-- **Turns in which nothing is sent and no result is taken** keep the crew in order. -/
theorem Keeps.append (h : Keeps s story c) {later : List (Happening κ σ α)} {m' : Mailbox σ α}
    (unsent : sends later = []) (untaken : returns later = [])
    (follows : m'.Follows s (jobsOf story) ((returns story).map (·.2.1)))
    (grows : c.mailbox.begun.length ≤ m'.begun.length)
    (begins_eq : begins (story ++ later) = List.range m'.begun.length)
    (refused : ∀ who fault, .refused who fault ∈ later → fault.kind = .gpuResource ∧
      (closings story ≠ [] ∨ left s ((jobsOf story).take c.mailbox.begun.length) = none))
    (quiet : later.Pairwise fun first later =>
      first.closed?.isSome → later.sent? = none ∧ later.began? = none)
    (between : closings story ≠ [] → ∀ event ∈ later, event.sent? = none ∧ event.began? = none)
    (closed : Closings s (jobsOf story) m'.worker (closings (story ++ later))) :
    Keeps s (story ++ later) { c with mailbox := m' } := by
  have jobs : jobsOf (story ++ later) = jobsOf story := by simp [jobsOf, unsent]
  have sent : sends (story ++ later) = sends story := by simp [unsent]
  have taken : returns (story ++ later) = returns story := by simp [untaken]
  refine ⟨?_, ?_, begins_eq, ?_, ?_, ?_, quiet_append h.quiet quiet between, ?_⟩
  · rw [jobs, taken]
    exact follows
  · rw [sent]
    exact h.numbered
  · intro who number waits
    rw [sent, taken]
    exact h.waiting who number waits
  · intro who number result got
    rw [taken] at got
    obtain ⟨job, known, begun⟩ := h.returned who number result got
    rw [sent, jobs]
    exact ⟨job, known, begun.imp_left fun early => early.trans_le grows⟩
  · intro who fault member
    have why : fault.kind = .gpuResource ∧ (closings story ≠ [] ∨
        left s ((jobsOf story).take c.mailbox.begun.length) = none) := by
      rcases List.mem_append.1 member with early | late
      · exact h.refused who fault early
      · exact refused who fault late
    rw [jobs, closings_append]
    refine ⟨why.1, why.2.imp ?_ (left_take_of_lost grows)⟩
    intro said none_said
    exact said (List.append_eq_nil_iff.1 none_said).1
  · rw [jobs]
    exact closed

/-- A job that is taken in keeps the crew in order. -/
theorem Keeps.sent [DecidableEq κ] (h : Keeps s story c) {who : κ} {job : Job σ α} {m' : Mailbox σ α}
    (accepting : c.mailbox.worker.accepting = true)
    (follows : m'.Follows s (jobsOf story ++ [job]) ((returns story).map (·.2.1)))
    (begun : m'.begun = c.mailbox.begun) (worker : m'.worker = c.mailbox.worker) :
    Keeps s (story ++ [.sent who (jobsOf story).length job])
      ⟨m', Function.update c.waiting who (some (jobsOf story).length)⟩ := by
  have noClosing : closings story = [] := h.closed.accepting_iff.1 accepting
  have jobs : jobsOf (story ++ [.sent who (jobsOf story).length job]) = jobsOf story ++ [job] := by
    rw [jobsOf_append]
    rfl
  have sent : sends (story ++ [.sent who (jobsOf story).length job]) =
      sends story ++ [(who, (jobsOf story).length, job)] := by
    rw [sends_append]
    rfl
  have taken : returns (story ++ [.sent who (jobsOf story).length job]) = returns story :=
    filterMap_concat_none rfl
  have closing : closings (story ++ [.sent who (jobsOf story).length job]) = closings story :=
    filterMap_concat_none rfl
  have earlier {number : Nat} {call : κ × Nat × Job σ α} (known : (sends story)[number]? = some call) :
      (sends story ++ [(who, (jobsOf story).length, job)])[number]? = some call := by
    rw [List.getElem?_append_left (List.getElem?_eq_some_iff.1 known).1]
    exact known
  refine ⟨?_, ?_, ?_, ?_, ?_, ?_, ?_, ?_⟩
  · rw [jobs, taken]
    exact follows
  · rw [sent, List.map_append, h.numbered, List.length_append, List.length_singleton,
      List.range_succ, ← length_jobsOf]
    rfl
  · rw [begun, ← h.begins_eq]
    exact filterMap_concat_none rfl
  · intro other number waits
    rw [sent, taken]
    by_cases same : other = who
    · simp only [same, Function.update_self, Option.some.injEq] at waits
      rw [same, ← waits]
      refine ⟨?_, job, ?_⟩
      · intro member
        obtain ⟨⟨_, _, result⟩, got, rfl⟩ := List.mem_map.1 member
        obtain ⟨⟨_, known⟩, -⟩ := h.returned _ _ _ got
        exact Nat.lt_irrefl _ (lt_of_sent known)
      · rw [length_jobsOf, List.getElem?_concat_length]
    · simp only [Function.update_of_ne same] at waits
      obtain ⟨untaken, job', known⟩ := h.waiting other number waits
      exact ⟨untaken, job', earlier known⟩
  · intro other number result got
    rw [taken] at got
    obtain ⟨⟨job', known⟩, result_eq, why⟩ := h.returned other number result got
    have inside := lt_of_sent known
    rw [sent, jobs, resultOf?_concat inside, left_take_concat inside.le, begun]
    exact ⟨⟨job', earlier known⟩, result_eq, why⟩
  · intro other fault member
    have early : .refused other fault ∈ story := by simpa using member
    rw [closing, jobs, begun, left_take_concat h.follows.begun_le]
    exact h.refused other fault early
  · refine quiet_append h.quiet (List.pairwise_singleton _ _) ?_
    exact fun said => absurd noClosing said
  · rw [closing, noClosing, worker]
    have open_yet := h.closed
    rw [noClosing] at open_yet
    cases open_yet with
    | none accepting joined => exact .none accepting joined

/-- A call keeps the crew in order. -/
theorem Keeps.call [DecidableEq κ] (h : Keeps s story c) (who : κ) (job : Job σ α) :
    Keeps s (story ++ (c.turn (.call who job)).1) (c.turn (.call who job)).2 := by
  cases free : c.waiting who with
  | some number =>
    simp only [turn, free, List.append_nil]
    exact h
  | none =>
    rcases h.follows.send job with ⟨fault, send, why⟩ | ⟨accepting, m', send, follows, begun, worker⟩
    · simp only [turn, free, send]
      refine h.append rfl rfl h.follows (Nat.le_refl _) ?_ ?_ (List.pairwise_singleton _ _) ?_ ?_
      · rw [← h.begins_eq]
        exact filterMap_concat_none rfl
      · intro other fault' member
        obtain ⟨rfl, rfl⟩ : other = who ∧ fault' = fault := by simpa using member
        rcases why with ⟨closed, rfl⟩ | ⟨lost, rfl⟩
        · refine ⟨rfl, .inl fun noClosing => ?_⟩
          rw [h.closed.accepting_iff.2 noClosing] at closed
          cases closed
        · exact ⟨rfl, .inr lost⟩
      · intro _ event member
        rw [List.mem_singleton.1 member]
        exact ⟨rfl, rfl⟩
      · rw [show closings (story ++ [.refused who fault]) = closings story from
          filterMap_concat_none rfl]
        exact h.closed
    · simp only [turn, free, send]
      exact h.sent accepting follows begun worker

/-- A result that its caller takes keeps the crew in order. -/
theorem Keeps.took [DecidableEq κ] (h : Keeps s story c) {who : κ} {number : Nat}
    {result : Except Fault α} (waits : c.waiting who = some number)
    (found : c.mailbox.results.lookup number = some result) :
    Keeps s (story ++ [.returned who number result])
      ⟨(c.mailbox.receive number).2, Function.update c.waiting who none⟩ := by
  obtain ⟨result_eq, follows⟩ := h.follows.receive found
  have begun := h.follows.begun_or_lost found
  obtain ⟨-, job, known⟩ := h.waiting who number waits
  have sent : sends (story ++ [.returned who number result]) = sends story :=
    filterMap_concat_none rfl
  have jobs : jobsOf (story ++ [.returned who number result]) = jobsOf story := by
    rw [jobsOf, sent, jobsOf]
  have taken : returns (story ++ [.returned who number result]) =
      returns story ++ [(who, number, result)] := by
    rw [returns_append]
    rfl
  have closing : closings (story ++ [.returned who number result]) = closings story :=
    filterMap_concat_none rfl
  refine ⟨?_, ?_, ?_, ?_, ?_, ?_, ?_, ?_⟩
  · rw [jobs, taken, List.map_append]
    exact follows
  · rw [sent]
    exact h.numbered
  · refine Eq.trans ?_ h.begins_eq
    exact filterMap_concat_none rfl
  · -- Who still waits does so for another call, since every number was sent by one caller.
    intro other number' waits'
    have apart : other ≠ who := by
      rintro rfl
      simp at waits'
    simp only [Function.update_of_ne apart] at waits'
    obtain ⟨untaken, job', known'⟩ := h.waiting other number' waits'
    rw [sent, taken, List.map_append, List.mem_append]
    refine ⟨?_, job', known'⟩
    rintro (early | late)
    · exact untaken early
    · rw [List.mem_singleton.1 late, known] at known'
      simp only [Option.some.injEq, Prod.mk.injEq] at known'
      exact apart known'.1.symm
  · intro other number' result' got
    rw [taken] at got
    rw [sent, jobs]
    rcases List.mem_append.1 got with early | late
    · exact h.returned other number' result' early
    · cases List.mem_singleton.1 late
      exact ⟨⟨job, known⟩, result_eq, begun⟩
  · intro other fault member
    have early : .refused other fault ∈ story := by simpa using member
    rw [closing, jobs]
    exact h.refused other fault early
  · refine quiet_append h.quiet (List.pairwise_singleton _ _) ?_
    intro _ event member
    rw [List.mem_singleton.1 member]
    exact ⟨rfl, rfl⟩
  · rw [closing, jobs]
    exact h.closed

/-- A look at the results keeps the crew in order. -/
theorem Keeps.wake [DecidableEq κ] (h : Keeps s story c) (who : κ) :
    Keeps s (story ++ (c.turn (.wake who)).1) (c.turn (.wake who)).2 := by
  cases waits : c.waiting who with
  | none =>
    simp only [turn, waits, List.append_nil]
    exact h
  | some number =>
    cases found : c.mailbox.results.lookup number with
    | none =>
      simp only [turn, waits, Mailbox.receive, found, List.append_nil]
      exact h
    | some result =>
      simp only [turn, waits, Mailbox.receive, found]
      exact h.took waits found

/-- **What the thread does** keeps the crew in order. -/
theorem Keeps.thread (h : Keeps s story c) {m' : Mailbox σ α} {said : List (Except Fault Unit)}
    (follows : m'.Follows s (jobsOf story) ((returns story).map (·.2.1)))
    (grows : c.mailbox.begun.length ≤ m'.begun.length)
    (idle : closings story ≠ [] → m'.begun.length = c.mailbox.begun.length)
    (closed : Closings s (jobsOf story) m'.worker (closings story ++ said)) :
    Keeps s (story ++ work c.mailbox m' said) { c with mailbox := m' } := by
  have all_begun : m'.begun.reverse = List.range m'.begun.length := by
    rw [follows.begun, List.length_reverse, List.length_range, List.reverse_reverse]
  refine h.append (sends_work _ _ _) (returns_work _ _ _) follows grows ?_ ?_ ?_ ?_ ?_
  · rw [begins_append, h.begins_eq, begins_work, all_begun, range_append_drop grows]
  · intro who fault member
    rcases mem_work member with ⟨_, _, other⟩ | ⟨_, other⟩ <;> cases other
  · refine List.pairwise_append.2 ⟨?_, ?_, ?_⟩
    · refine List.pairwise_map.2 (List.pairwise_of_forall ?_)
      intro _ _ closed
      cases closed
    · refine List.pairwise_map.2 (List.pairwise_of_forall ?_)
      intro _ _ _
      exact ⟨rfl, rfl⟩
    · intro first member later _ closed
      obtain ⟨number, -, rfl⟩ := List.mem_map.1 member
      cases closed
  · intro late event member
    rcases mem_work member with ⟨number, began, -⟩ | ⟨answer, rfl⟩
    · rw [List.drop_eq_nil_of_le (by rw [List.length_reverse, idle late])] at began
      cases began
    · exact ⟨rfl, rfl⟩
  · rw [closings_append, closings_work]
    exact closed

theorem Keeps.closed_of (h : Keeps s story c) (late : closings story ≠ []) :
    c.mailbox.worker.accepting = false :=
  Bool.eq_false_iff.2 fun accepting => late (h.closed.accepting_iff.1 accepting)

theorem Keeps.serve [DecidableEq κ] (h : Keeps s story c) :
    Keeps s (story ++ (c.turn .serve).1) (c.turn .serve).2 := by
  refine h.thread h.follows.serve c.mailbox.length_begun_serve ?_ ?_
  · intro late
    rw [(h.follows.serve_closed (h.closed_of late)).2]
  · rw [List.append_nil]
    exact h.closed.congr c.mailbox.serve_accepting c.mailbox.serve_joined

/-- Shutting down keeps the crew in order. -/
theorem Keeps.shutdown [DecidableEq κ] (h : Keeps s story c) :
    Keeps s (story ++ (c.turn .shutdown).1) (c.turn .shutdown).2 := by
  obtain ⟨answer, accepting, joined, grows, follows⟩ := h.follows.shutdown
  refine h.thread follows grows ?_ ?_
  · intro late
    simp only [Mailbox.shutdown, (h.follows.serve_closed (h.closed_of late)).1]
    rfl
  · rw [answer]
    exact h.closed.close accepting joined

/-- The jobs of a crew that is in order were done one after the other. -/
theorem Keeps.serial (h : Keeps s story c) : Serial s story where
  numbered := h.numbered
  begun := by
    rw [h.begins_eq, List.length_range]
  begun_le := by
    rw [h.begins_eq, List.length_range, ← length_jobsOf]
    exact h.follows.begun_le
  returned := by
    intro who number result got
    obtain ⟨⟨job, known⟩, result_eq, -⟩ := h.returned who number result got
    rw [resultOf?, jobsOf_getElem? known, Option.map_some, Option.some.injEq] at result_eq
    exact ⟨job, known, result_eq.symm⟩
  returned_once := by
    have distinct := h.follows.answered.nodup_iff.2 List.nodup_range
    exact (List.nodup_append.1 distinct).2.1
  returned_begun := by
    intro who number result got
    rw [h.begins_eq, List.mem_range]
    exact (h.returned who number result got).2.2
  lost_begun := by
    intro number lost other begun
    rw [h.begins_eq, List.mem_range] at begun
    by_contra later
    have found := h.follows.found other begun
    rw [left_take_of_lost (Nat.lt_of_not_le later) lost] at found
    cases found
  lost_returned := by
    intro number lost who later result got beyond
    obtain ⟨⟨job, known⟩, result_eq, -⟩ := h.returned who later result got
    have inside := lt_of_sent known
    have none_left : left s ((jobsOf story).take (later + 1)) = none :=
      left_take_of_lost (Nat.succ_le_succ beyond) lost
    rw [left_succ inside] at none_left
    rw [resultOf?_eq inside, Job.perform_of_lost none_left, Option.some.injEq] at result_eq
    exact ⟨_, result_eq.symm, rfl⟩
  refused := by
    intro who fault member
    rw [h.begins_eq, List.length_range]
    exact h.refused who fault member
  quiet := h.quiet
  closed := by
    have closed := h.closed
    revert closed
    generalize closings story = answers
    rintro (_ | ⟨_, _, fine⟩)
    · exact .inl rfl
    · refine .inr ⟨_, ?_, fine⟩
      simp [Mailbox.farewell]

section

variable [DecidableEq κ]

/-- **Whoever comes next, the crew stays in order.** -/
theorem Keeps.turn (h : Keeps s story c) (next : Turn κ σ α) :
    Keeps s (story ++ (c.turn next).1) (c.turn next).2 := by
  cases next with
  | call who job => exact h.call who job
  | serve => exact h.serve
  | wake who => exact h.wake who
  | shutdown => exact h.shutdown

/-- The crew stays in order from turn to turn. -/
theorem Keeps.run (h : Keeps s story c) (turns : List (Turn κ σ α)) :
    Keeps s (story ++ (c.run turns).1) (c.run turns).2 := by
  induction turns generalizing story c with
  | nil =>
    rw [Crew.run, List.append_nil]
    exact h
  | cons first rest ih =>
    rw [Crew.run, ← List.append_assoc]
    exact ih (h.turn first)

theorem run_serve (n : Nat) (c : Crew κ σ α) :
    (c.run (List.replicate n .serve)).2 = { c with mailbox := c.mailbox.drain n } := by
  induction n generalizing c with
  | zero => rfl
  | succ n ih =>
    show ((c.turn .serve).2.run (List.replicate n .serve)).2 = _
    rw [ih, ← Mailbox.drain_serve]
    rfl

/-- Nobody of a crew that is in order waits for nothing. -/
theorem Keeps.lively (h : Keeps s story c) : Lively s story c := by
  have later : Keeps s (story ++ c.catchUp.1) c.catchUp.2 := h.run _
  have through : c.catchUp.2 = { c with mailbox := c.mailbox.drain c.mailbox.pending.length } :=
    run_serve _ c
  have none_left : c.catchUp.2.mailbox.pending = [] := by
    rw [through]
    exact h.follows.pending_drain
  refine ⟨?_, ?_, ?_, ?_⟩
  · intro who number waits
    have waits_still : c.catchUp.2.waiting who = some number := by
      rw [through]
      exact waits
    obtain ⟨untaken, job, known⟩ := later.waiting who number waits_still
    have left_it : number < c.catchUp.2.mailbox.next - c.catchUp.2.mailbox.pending.length := by
      rw [none_left, later.follows.next]
      exact lt_of_sent known
    obtain ⟨result, found⟩ :=
      Option.isSome_iff_exists.1 (later.follows.lookup_isSome left_it untaken)
    refine ⟨result, ?_⟩
    simp only [Crew.turn, waits_still, Mailbox.receive, found]
  · intro number inside found
    rw [later.begins_eq, List.mem_range, through]
    exact (h.follows.drain _).all_begun h.follows.pending_drain inside found
  · intro who job free noClosing found
    rw [h.begins_eq, List.length_range] at found
    rcases h.follows.send job with ⟨fault, -, ⟨closed, -⟩ | ⟨lost, -⟩⟩ | ⟨-, m', send, -⟩
    · rw [h.closed.accepting_iff.2 noClosing] at closed
      cases closed
    · rw [lost] at found
      cases found
    · simp only [Crew.turn, free, send]
  · intro who job free late
    have refused : c.mailbox.send job = (.error (.device .shutDown), c.mailbox) := by
      simp [Mailbox.send, Mailbox.refusal?, h.closed_of late]
    simp only [Crew.turn, free, refused]

/-- **Callers that share a worker see their jobs done one after the other**, in the order in which
they were sent, whoever comes next; and nobody waits for nothing. -/
theorem run_serial (s : σ) (adapter : String) (turns : List (Turn κ σ α)) :
    Serial s ((start s adapter).run turns).1 ∧
      Lively s ((start s adapter).run turns).1 ((start s adapter).run turns).2 := by
  have kept := (keeps_start s adapter).run turns
  rw [List.nil_append] at kept
  exact ⟨kept.serial, kept.lively⟩

/-- Two callers count; the one that sent its job last looks first. -/
example :
    returns ((start 0 "adapter" : Crew Bool Nat Nat).run
      [.call true fun n => (.ok n, n + 1), .call false fun n => (.ok n, n + 1), .serve, .serve,
        .wake false, .wake true]).1 = [(false, 1, .ok 1), (true, 0, .ok 0)] := rfl

end

end Crew

end Tint.Gpu
