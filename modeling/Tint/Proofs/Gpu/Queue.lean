import Mathlib.Data.List.Range
import Tint.Gpu.Mailbox

/-!
# Jobs in the order in which they were sent

Whoever sends jobs to a mailbox, and whenever its thread gets to them, the mailbox does what doing
the jobs one after the other would do, in the order in which they were sent. This is said once, of
a mailbox and the jobs that it has taken in so far (`Mailbox.Follows`), and kept by everything that
happens to a mailbox: sending, serving, taking a result and shutting down.

## The model

* `Job.perform` is a job on a state, or on the lack of one after a crash.
* `left` is the state that jobs leave one after the other, and `resultOf?` the result of one of
  them. Both are about jobs alone: no thread or mailbox is in them.
* `Mailbox.Stage` says how far the thread is: it has begun as many jobs as `begun` tells, and it
  is at work on the state that these leave, or crashed, or ended after the last one.

## What is proved

* `Mailbox.Follows.send`, `serve`, `receive` and `shutdown`: one lemma for each thing that
  happens to a mailbox.
* `Mailbox.Follows.pending_drain`: serving as often as there are calls leaves no call.
-/

namespace Tint.Gpu

variable {σ α : Type}

/-! ### Jobs one after the other -/

/-- A job on the state that the jobs before it left, or on none if one of them crashed: its
result, and the state that it leaves. -/
def Job.perform (job : Job σ α) : Option σ → Except Fault α × Option σ
  | none => (.error (.device .jobDropped), none)
  | some s =>
    match job s with
    | (.ok a, s) => (.ok a, some s)
    | (.error (.fault fault), s) => (.error fault, some s)
    | (.error .crash, _) => (.error (.device .jobDropped), none)

/-- The state that jobs leave, one after the other, unless one of them crashes. -/
def left (s : σ) (jobs : List (Job σ α)) : Option σ :=
  jobs.foldl (fun state job => (job.perform state).2) (some s)

/-- The result of the job of a number, on the state that the jobs before it leave. -/
def resultOf? (s : σ) (jobs : List (Job σ α)) (number : Nat) : Option (Except Fault α) :=
  jobs[number]?.map fun job => (job.perform (left s (jobs.take number))).1

section

variable {s : σ} {jobs : List (Job σ α)} {job : Job σ α} {m n : Nat}

theorem left_concat : left s (jobs ++ [job]) = (job.perform (left s jobs)).2 := by
  simp [left]

theorem left_succ (h : n < jobs.length) :
    left s (jobs.take (n + 1)) = (jobs[n].perform (left s (jobs.take n))).2 := by
  rw [List.take_succ_eq_append_getElem h, left_concat]

/-- Nothing is left after a crash, whatever is sent later. -/
theorem left_append_of_lost (lost : left s jobs = none) (later : List (Job σ α)) :
    left s (jobs ++ later) = none := by
  rw [left, List.foldl_append, show jobs.foldl _ _ = none from lost]
  induction later with
  | nil => rfl
  | cons job rest ih => exact ih

/-- Nothing is left after a crash, however many more jobs are counted. -/
theorem left_take_of_lost (h : m ≤ n) (lost : left s (jobs.take m) = none) :
    left s (jobs.take n) = none := by
  have first : jobs.take m = (jobs.take n).take m := by
    rw [List.take_take, Nat.min_eq_left h]
  rw [← List.take_append_drop m (jobs.take n), ← first]
  exact left_append_of_lost lost _

theorem left_of_lost (lost : left s (jobs.take m) = none) : left s jobs = none := by
  rw [← List.take_append_drop m jobs]
  exact left_append_of_lost lost _

theorem left_take_concat (h : n ≤ jobs.length) :
    left s ((jobs ++ [job]).take n) = left s (jobs.take n) := by
  rw [List.take_append_of_le_length h]

theorem resultOf?_concat (h : n < jobs.length) :
    resultOf? s (jobs ++ [job]) n = resultOf? s jobs n := by
  rw [resultOf?, List.getElem?_append_left h, left_take_concat h.le]
  rfl

theorem Job.perform_of_lost {state : Option σ} (lost : (job.perform state).2 = none) :
    (job.perform state).1 = .error (.device .jobDropped) := by
  cases state with
  | none => rfl
  | some s => rcases h : job s with ⟨(fault | crash) | a, s'⟩ <;> simp_all [Job.perform]

theorem resultOf?_eq (h : n < jobs.length) :
    resultOf? s jobs n = some (jobs[n].perform (left s (jobs.take n))).1 := by
  rw [resultOf?, List.getElem?_eq_getElem h]
  rfl

theorem lt_of_resultOf? {result : Except Fault α} (h : resultOf? s jobs n = some result) :
    n < jobs.length := by
  by_contra beyond
  simp [resultOf?, List.getElem?_eq_none (Nat.le_of_not_lt beyond)] at h

theorem resultOf?_of_lost (h : n < jobs.length) (lost : left s (jobs.take n) = none) :
    resultOf? s jobs n = some (.error (.device .jobDropped)) := by
  rw [resultOf?_eq h, lost]
  rfl

end

/-- The thread that has done jobs which left a state, or crashed. -/
def threadOf : Option σ → Thread σ
  | some s => .waiting s
  | none => .dying

theorem execute_waiting (job : Job σ α) (s : σ) :
    Worker.execute job (.waiting s) =
      ((job.perform (some s)).1, threadOf (job.perform (some s)).2) := by
  rcases h : job s with ⟨(fault | crash) | a, s'⟩ <;> simp [Worker.execute, Job.perform, h, threadOf]

theorem range_append_drop {k n : Nat} (h : k ≤ n) :
    List.range k ++ (List.range n).drop k = List.range n := by
  conv_rhs => rw [← List.take_append_drop k (List.range n), List.take_range, Nat.min_eq_left h]

/-- Jobs with the numbers that they are sent under. -/
def calls (jobs : List (Job σ α)) : List (Call σ α) := jobs.mapIdx Call.mk

section

variable {jobs : List (Job σ α)} {k : Nat}

@[simp] theorem length_calls : (calls jobs).length = jobs.length := by
  simp [calls]

theorem calls_concat (job : Job σ α) : calls (jobs ++ [job]) = calls jobs ++ [⟨jobs.length, job⟩] := by
  simp [calls]

theorem numbers_calls : (calls jobs).map Call.number = List.range jobs.length := by
  refine List.ext_getElem (by simp) ?_
  intro i inside inside'
  simp [calls]

theorem calls_drop (h : k < jobs.length) :
    (calls jobs).drop k = ⟨k, jobs[k]⟩ :: (calls jobs).drop (k + 1) := by
  rw [List.drop_eq_getElem_cons (by simpa using h)]
  simp [calls]

end

namespace Mailbox

/-! ### A mailbox and the jobs that it has taken in -/

/-- The thread goes on with the calls that were not taken, or it crashed in the last job that it
began. -/
structure AtWork (s : σ) (jobs : List (Job σ α)) (m : Mailbox σ α) : Prop where
  /-- The thread has what the jobs begun have left. -/
  thread : m.worker.thread = threadOf (left s (jobs.take m.begun.length))
  /-- Jobs can be sent. -/
  accepting : m.worker.accepting = true
  /-- Nobody has waited for the thread. -/
  joined : m.worker.joined = false
  /-- The calls that were not taken are those of the jobs that were not begun. -/
  pending : m.pending = (calls jobs).drop m.begun.length

/-- How far the thread of a mailbox is with the jobs that were sent. -/
inductive Stage (s : σ) (jobs : List (Job σ α)) (m : Mailbox σ α) : Prop where
  /-- It is at work. -/
  | atWork (atWork : AtWork s jobs m)
  /-- It crashed, and has closed the mailbox. -/
  | lost (thread : m.worker.thread = .crashed)
    (nothing : left s (jobs.take m.begun.length) = none)
    (joined : m.worker.joined = !m.worker.accepting) (pending : m.pending = [])
  /-- It was shut down after the last job. -/
  | ended (thread : m.worker.thread = .ended) (accepting : m.worker.accepting = false)
    (joined : m.worker.joined = true) (all : m.begun.length = jobs.length)
    (some : (left s jobs).isSome) (pending : m.pending = [])

/-- A mailbox does what doing the jobs one after the other would do. `jobs` were sent, and the
results of the numbers `taken` were taken by their callers. -/
structure Follows (s : σ) (jobs : List (Job σ α)) (taken : List Nat) (m : Mailbox σ α) : Prop where
  /-- Jobs are numbered in the order in which they were sent. -/
  next : m.next = jobs.length
  /-- Jobs are begun in the order of their numbers, each once. -/
  begun : m.begun = (List.range m.begun.length).reverse
  /-- What was begun had been sent. -/
  begun_le : m.begun.length ≤ jobs.length
  /-- No job is begun after a crash. -/
  found : ∀ i < m.begun.length, (left s (jobs.take i)).isSome
  /-- The thread is at its place. -/
  stage : Stage s jobs m
  /-- Results are those of the jobs with their numbers. -/
  results : ∀ result ∈ m.results, resultOf? s jobs result.1 = some result.2
  /-- Every call that left the mailbox has one result, which is there or was taken. -/
  answered : (m.results.map Prod.fst ++ taken).Perm (List.range (m.next - m.pending.length))

/-- A worker with nothing to do. -/
def start (s : σ) (adapter : String) : Mailbox σ α :=
  { worker := { thread := .waiting s, adapter } }

theorem follows_start (s : σ) (adapter : String) : Follows s ([] : List (Job σ α)) [] (start s adapter) where
  next := rfl
  begun := rfl
  begun_le := Nat.le_refl 0
  found := by simp [start]
  stage := .atWork ⟨rfl, rfl, rfl, rfl⟩
  results := by simp [start]
  answered := by simp [start]

variable {s : σ} {jobs : List (Job σ α)} {taken : List Nat} {m : Mailbox σ α}

/-! ### Sending -/

/-- A job that is taken in gets the next number. -/
theorem Follows.admit (h : Follows s jobs taken m) (job : Job σ α) (atWork : AtWork s jobs m) :
    Follows s (jobs ++ [job]) taken
      { m with pending := m.pending ++ [⟨jobs.length, job⟩], next := jobs.length + 1 } where
  next := by simp
  begun := h.begun
  begun_le := by
    rw [List.length_append]
    exact Nat.le_add_right_of_le h.begun_le
  found := by
    intro i inside
    rw [left_take_concat (Nat.le_trans inside.le h.begun_le)]
    exact h.found i inside
  stage := by
    refine .atWork ⟨?_, atWork.accepting, atWork.joined, ?_⟩
    · rw [left_take_concat h.begun_le]
      exact atWork.thread
    · rw [calls_concat, List.drop_append_of_le_length (by simpa using h.begun_le),
        ← atWork.pending]
  results := by
    intro result member
    have known := h.results result member
    rw [resultOf?_concat (lt_of_resultOf? known)]
    exact known
  answered := by
    have answered := h.answered
    rw [h.next] at answered
    rw [List.length_append, List.length_singleton, Nat.add_sub_add_right]
    exact answered

/-- A worker refuses a job only if it was shut down or lost its thread. Else the job gets the next
number. -/
theorem Follows.send (h : Follows s jobs taken m) (job : Job σ α) :
    (∃ fault, m.send job = (.error fault, m) ∧
      (m.worker.accepting = false ∧ fault = .device .shutDown ∨
        left s (jobs.take m.begun.length) = none ∧ fault = .device .threadGone)) ∨
    m.worker.accepting = true ∧ ∃ m', m.send job = (.ok jobs.length, m') ∧
      Follows s (jobs ++ [job]) taken m' ∧ m'.begun = m.begun ∧ m'.worker = m.worker := by
  cases h.stage with
  | atWork atWork =>
    have accepted : refusal? m.worker = none := by
      simp only [refusal?, atWork.accepting, atWork.thread]
      cases left s (jobs.take m.begun.length) <;> rfl
    refine .inr ⟨atWork.accepting, _, ?_, h.admit job atWork, rfl, rfl⟩
    simp only [Mailbox.send, accepted, h.next]
  | lost thread nothing joined pending =>
    refine .inl ?_
    cases accepting : m.worker.accepting with
    | false => exact ⟨_, by simp [Mailbox.send, refusal?, accepting], .inl ⟨rfl, rfl⟩⟩
    | true =>
      exact ⟨_, by simp [Mailbox.send, refusal?, accepting, thread],
        .inr ⟨nothing, rfl⟩⟩
  | ended thread accepting _ _ _ _ =>
    exact .inl ⟨_, by simp [Mailbox.send, refusal?, accepting], .inl ⟨accepting, rfl⟩⟩

/-! ### Serving -/

@[simp] theorem serve_accepting (m : Mailbox σ α) :
    m.serve.worker.accepting = m.worker.accepting := by
  unfold serve
  split <;> rfl

@[simp] theorem serve_joined (m : Mailbox σ α) : m.serve.worker.joined = m.worker.joined := by
  unfold serve
  split <;> rfl

theorem length_begun_serve (m : Mailbox σ α) : m.begun.length ≤ m.serve.begun.length := by
  unfold serve
  split <;> simp

/-- The thread takes the oldest call. -/
theorem serve_waiting {state : σ} {call : Call σ α} {rest : List (Call σ α)}
    (thread : m.worker.thread = .waiting state) (pending : m.pending = call :: rest) :
    m.serve =
      { m with
        worker := { m.worker with thread := threadOf (call.job.perform (some state)).2 }
        pending := rest
        begun := call.number :: m.begun
        results := (call.number, (call.job.perform (some state)).1) :: m.results } := by
  simp only [serve, thread, pending, execute_waiting]

/-- A thread that crashed closes the mailbox. -/
theorem serve_dying (thread : m.worker.thread = .dying) :
    m.serve =
      { m with
        worker := { m.worker with thread := .crashed }
        pending := []
        results := dropped m.pending.reverse ++ m.results } := by
  simp only [serve, thread]

theorem serve_idle (thread : m.worker.thread ≠ .dying) (pending : m.pending = []) :
    m.serve = m := by
  unfold serve
  split <;> simp_all

/-- The oldest job that is left is done on the state that the jobs before it left. -/
theorem Follows.begin (h : Follows s jobs taken m) (atWork : AtWork s jobs m) {state : σ}
    (found : left s (jobs.take m.begun.length) = some state)
    (more : m.begun.length < jobs.length) :
    Follows s jobs taken { m with
      worker := { m.worker with
        thread := threadOf (jobs[m.begun.length].perform (some state)).2 }
      pending := (calls jobs).drop (m.begun.length + 1)
      begun := m.begun.length :: m.begun
      results :=
        (m.begun.length, (jobs[m.begun.length].perform (some state)).1) :: m.results } where
  next := h.next
  begun := by
    rw [List.length_cons, List.range_succ, List.reverse_concat, ← h.begun]
  begun_le := more
  found := by
    intro i inside
    rcases Nat.lt_succ_iff_lt_or_eq.1 inside with before | rfl
    · exact h.found i before
    · rw [found]
      rfl
  stage := by
    refine .atWork ⟨?_, atWork.accepting, atWork.joined, rfl⟩
    rw [List.length_cons, left_succ more, found]
  results := by
    intro result member
    rcases List.mem_cons.1 member with rfl | before
    · rw [resultOf?_eq more, found]
    · exact h.results result before
  answered := by
    have answered := h.answered
    rw [atWork.pending, h.next, List.length_drop, length_calls, Nat.sub_sub_self h.begun_le]
      at answered
    have one : m.next - ((calls jobs).drop (m.begun.length + 1)).length = m.begun.length + 1 := by
      rw [h.next, List.length_drop, length_calls]
      omega
    rw [one, List.range_succ, List.map_cons, List.cons_append]
    exact (answered.cons _).trans (List.perm_append_singleton _ _).symm

/-- The jobs that a crash leaves over are dropped. -/
theorem Follows.drop (h : Follows s jobs taken m) (atWork : AtWork s jobs m)
    (nothing : left s (jobs.take m.begun.length) = none) :
    Follows s jobs taken { m with
      worker := { m.worker with thread := .crashed }
      pending := []
      results := dropped m.pending.reverse ++ m.results } where
  next := h.next
  begun := h.begun
  begun_le := h.begun_le
  found := h.found
  stage := .lost rfl nothing (by rw [atWork.joined, atWork.accepting]; rfl) rfl
  results := by
    intro result member
    rcases List.mem_append.1 member with late | before
    · obtain ⟨call, waiting, rfl⟩ := List.mem_map.1 late
      rw [List.mem_reverse, atWork.pending] at waiting
      obtain ⟨i, inside, rfl⟩ := List.mem_iff_getElem.1 waiting
      rw [List.length_drop, length_calls] at inside
      have number : ((calls jobs).drop m.begun.length)[i].number = m.begun.length + i := by
        simp [calls]
      rw [number]
      exact resultOf?_of_lost (by omega) (left_take_of_lost (Nat.le_add_right _ i) nothing)
    · exact h.results result before
  answered := by
    have answered := h.answered
    rw [atWork.pending, h.next, List.length_drop, length_calls, Nat.sub_sub_self h.begun_le]
      at answered
    have numbers : (dropped m.pending.reverse).map Prod.fst =
        ((List.range jobs.length).drop m.begun.length).reverse := by
      rw [dropped, List.map_map, atWork.pending, ← numbers_calls, ← List.map_drop,
        ← List.map_reverse]
      rfl
    rw [List.map_append, numbers, List.append_assoc, h.next, List.length_nil, Nat.sub_zero]
    have late :=
      (List.reverse_perm ((List.range jobs.length).drop m.begun.length)).append answered
    have sorted := late.trans List.perm_append_comm
    rw [range_append_drop h.begun_le] at sorted
    exact sorted

/-- **Serving does the oldest job that is left**, or drops all that are left after a crash. -/
theorem Follows.serve (h : Follows s jobs taken m) : Follows s jobs taken m.serve := by
  cases h.stage with
  | atWork atWork =>
    cases found : left s (jobs.take m.begun.length) with
    | none =>
      rw [serve_dying (by rw [atWork.thread, found]; rfl)]
      exact h.drop atWork found
    | some state =>
      have thread : m.worker.thread = .waiting state := by
        rw [atWork.thread, found]
        rfl
      by_cases more : m.begun.length < jobs.length
      · rw [serve_waiting thread (atWork.pending.trans (calls_drop more))]
        exact h.begin atWork found more
      · have none_left : m.pending = [] := by
          rw [atWork.pending, List.drop_eq_nil_iff]
          simpa using more
        rw [serve_idle (by rw [thread]; nofun) none_left]
        exact h
  | lost thread _ _ pending =>
    rw [serve_idle (by rw [thread]; nofun) pending]
    exact h
  | ended thread _ _ _ _ pending =>
    rw [serve_idle (by rw [thread]; nofun) pending]
    exact h

/-- Every time the thread is at a mailbox with calls, there are fewer. -/
theorem Follows.length_pending_serve (h : Follows s jobs taken m) :
    m.serve.pending.length ≤ m.pending.length - 1 := by
  cases h.stage with
  | atWork atWork =>
    cases found : left s (jobs.take m.begun.length) with
    | none =>
      rw [serve_dying (by rw [atWork.thread, found]; rfl)]
      exact Nat.zero_le _
    | some state =>
      have thread : m.worker.thread = .waiting state := by
        rw [atWork.thread, found]
        rfl
      cases pending : m.pending with
      | nil =>
        rw [serve_idle (by rw [thread]; nofun) pending, pending]
        exact Nat.zero_le _
      | cons call rest =>
        rw [serve_waiting thread pending]
        exact Nat.le_refl _
  | lost thread _ _ pending | ended thread _ _ _ _ pending =>
    rw [serve_idle (by rw [thread]; nofun) pending, pending]
    exact Nat.zero_le _

/-! ### Taking results -/

/-- **A result that is taken is that of the job of its number**, and it is taken once. -/
theorem Follows.receive (h : Follows s jobs taken m) {number : Nat} {result : Except Fault α}
    (found : m.results.lookup number = some result) :
    resultOf? s jobs number = some result ∧
      Follows s jobs (taken ++ [number]) (m.receive number).2 := by
  obtain ⟨before, after, split, others⟩ := List.lookup_eq_some_iff.1 found
  have erased : m.results.eraseP (·.1 == number) = before ++ after := by
    rw [split, List.eraseP_append_right _ (by
      intro other member same
      have apart := others other member
      simp_all), List.eraseP_cons_of_pos (by simp)]
  have known : ∀ r ∈ before ++ after, r ∈ m.results := by
    intro r member
    rw [split]
    rcases List.mem_append.1 member with early | late
    · exact List.mem_append_left _ early
    · exact List.mem_append_right _ (List.mem_cons_of_mem _ late)
  refine ⟨h.results (number, result) (by simp [split]), ?_⟩
  simp only [Mailbox.receive, erased]
  constructor
  case next => exact h.next
  case begun => exact h.begun
  case begun_le => exact h.begun_le
  case found => exact h.found
  case stage =>
    cases h.stage with
    | atWork atWork => exact .atWork ⟨atWork.thread, atWork.accepting, atWork.joined, atWork.pending⟩
    | lost thread nothing joined pending => exact .lost thread nothing joined pending
    | ended thread accepting joined all some pending =>
      exact .ended thread accepting joined all some pending
  case results => exact fun r member => h.results r (known r member)
  case answered =>
    have answered := h.answered
    rw [split, List.map_append, List.map_cons, List.append_assoc, List.cons_append] at answered
    rw [List.map_append, List.append_assoc]
    refine List.Perm.trans (List.Perm.append_left _ ?_) answered
    rw [← List.append_assoc]
    exact List.perm_append_singleton _ _

/-- A call with a result was begun, or a job before it crashed. -/
theorem Follows.begun_or_lost (h : Follows s jobs taken m) {number : Nat}
    {result : Except Fault α} (found : m.results.lookup number = some result) :
    number < m.begun.length ∨ left s (jobs.take number) = none := by
  obtain ⟨before, after, split, -⟩ := List.lookup_eq_some_iff.1 found
  have answered : number < m.next - m.pending.length := by
    rw [← List.mem_range, ← h.answered.mem_iff, split]
    simp
  cases h.stage with
  | atWork atWork =>
    rw [atWork.pending, h.next, List.length_drop, length_calls, Nat.sub_sub_self h.begun_le]
      at answered
    exact .inl answered
  | lost thread nothing joined pending =>
    rcases Nat.lt_or_ge number m.begun.length with begun | later
    · exact .inl begun
    · exact .inr (left_take_of_lost later nothing)
  | ended thread accepting joined all some pending =>
    rw [pending, h.next, ← all] at answered
    exact .inl answered

theorem AtWork.all_begun (atWork : AtWork s jobs m) (pending : m.pending = []) :
    jobs.length ≤ m.begun.length := by
  have none_left := atWork.pending.symm.trans pending
  rw [List.drop_eq_nil_iff, length_calls] at none_left
  exact none_left

/-- A mailbox without calls has begun every job, unless one before it crashed. -/
theorem Follows.all_begun (h : Follows s jobs taken m) (pending : m.pending = []) {number : Nat}
    (inside : number < jobs.length) (found : (left s (jobs.take number)).isSome) :
    number < m.begun.length := by
  cases h.stage with
  | atWork atWork => exact Nat.lt_of_lt_of_le inside (atWork.all_begun pending)
  | lost _ nothing _ _ =>
    by_contra beyond
    rw [left_take_of_lost (Nat.le_of_not_lt beyond) nothing] at found
    cases found
  | ended _ _ _ all _ _ =>
    rw [all]
    exact inside

/-- A call that left the mailbox has a result, unless its caller took it. -/
theorem Follows.lookup_isSome (h : Follows s jobs taken m) {number : Nat}
    (left : number < m.next - m.pending.length) (waits : number ∉ taken) :
    (m.results.lookup number).isSome := by
  have member := h.answered.symm.subset (List.mem_range.2 left)
  rcases List.mem_append.1 member with there | gone
  · obtain ⟨⟨_, result⟩, known, rfl⟩ := List.mem_map.1 there
    by_contra missing
    rw [Option.not_isSome_iff_eq_none, List.lookup_eq_none_iff] at missing
    simpa using missing _ known
  · exact absurd gone waits

/-! ### Serving until no call is left -/

/-- The thread is at the mailbox `n` times. -/
def drain (n : Nat) (m : Mailbox σ α) : Mailbox σ α := Nat.repeat Mailbox.serve n m

theorem drain_succ (n : Nat) (m : Mailbox σ α) : m.drain (n + 1) = (m.drain n).serve := rfl

theorem drain_serve (n : Nat) (m : Mailbox σ α) : m.serve.drain n = m.drain (n + 1) := by
  induction n with
  | zero => rfl
  | succ n ih => rw [drain_succ, ih, ← drain_succ]

theorem Follows.drain (h : Follows s jobs taken m) (n : Nat) :
    Follows s jobs taken (m.drain n) := by
  induction n with
  | zero => exact h
  | succ n ih => exact ih.serve

/-- **Serving as often as there are calls leaves no call.** -/
theorem Follows.pending_drain (h : Follows s jobs taken m) : (m.drain m.pending.length).pending = [] := by
  have fewer (n : Nat) : (m.drain n).pending.length ≤ m.pending.length - n := by
    induction n with
    | zero => exact Nat.le_refl _
    | succ n ih =>
      have := (h.drain n).length_pending_serve
      rw [drain_succ]
      omega
  have none_left := fewer m.pending.length
  rw [Nat.sub_self] at none_left
  exact List.eq_nil_of_length_eq_zero (Nat.le_zero.1 none_left)

theorem drain_joined (n : Nat) (m : Mailbox σ α) :
    (m.drain n).worker.joined = m.worker.joined := by
  induction n with
  | zero => rfl
  | succ n ih => rw [drain_succ, serve_joined, ih]

theorem length_begun_drain (n : Nat) (m : Mailbox σ α) :
    m.begun.length ≤ (m.drain n).begun.length := by
  induction n with
  | zero => exact Nat.le_refl _
  | succ n ih => exact Nat.le_trans ih (length_begun_serve _)

/-! ### Shutting down -/

/-- A worker that was shut down has no calls, and nothing is begun any more. -/
theorem Follows.serve_closed (h : Follows s jobs taken m) (closed : m.worker.accepting = false) :
    m.pending = [] ∧ m.serve = m := by
  cases h.stage with
  | atWork atWork =>
    rw [atWork.accepting] at closed
    cases closed
  | lost thread _ _ pending | ended thread _ _ _ _ pending =>
    exact ⟨pending, serve_idle (by rw [thread]; nofun) pending⟩

/-- What shutting down says: that the thread crashed is said once. -/
def farewell (joined : Bool) (state : Option σ) : Except Fault Unit :=
  if joined ∨ state.isSome then .ok () else .error (.device .threadCrashed)

/-- A worker without calls ends its thread. -/
theorem Follows.close (h : Follows s jobs taken m) (pending : m.pending = []) :
    m.worker.shutdown.1 = farewell m.worker.joined (left s jobs) ∧
      m.worker.shutdown.2.accepting = false ∧ m.worker.shutdown.2.joined = true ∧
      Follows s jobs taken { m with worker := m.worker.shutdown.2 } := by
  suffices closing : m.worker.shutdown.1 = farewell m.worker.joined (left s jobs) ∧
      m.worker.shutdown.2.accepting = false ∧ m.worker.shutdown.2.joined = true ∧
      Stage s jobs { m with worker := m.worker.shutdown.2 } by
    obtain ⟨answer, accepting, joined, stage⟩ := closing
    exact ⟨answer, accepting, joined, h.next, h.begun, h.begun_le, h.found, stage, h.results,
      h.answered⟩
  cases h.stage with
  | atWork atWork =>
    have all := Nat.le_antisymm h.begun_le (atWork.all_begun pending)
    have thread := atWork.thread
    rw [all, List.take_length] at thread
    cases found : left s jobs with
    | none =>
      rw [found] at thread
      simp only [Worker.shutdown, atWork.joined, thread]
      refine ⟨rfl, rfl, rfl, .lost rfl ?_ rfl pending⟩
      rw [all, List.take_length]
      exact found
    | some state =>
      rw [found] at thread
      simp only [Worker.shutdown, atWork.joined, thread]
      exact ⟨rfl, rfl, rfl, .ended rfl rfl rfl all (by rw [found]; rfl) pending⟩
  | lost thread nothing joined _ =>
    rw [left_of_lost nothing]
    cases accepting : m.worker.accepting with
    | false =>
      rw [accepting] at joined
      simp only [Worker.shutdown, joined, thread]
      exact ⟨rfl, rfl, rfl, .lost rfl nothing rfl pending⟩
    | true =>
      rw [accepting] at joined
      simp only [Worker.shutdown, joined, thread]
      exact ⟨rfl, rfl, rfl, .lost rfl nothing rfl pending⟩
  | ended thread accepting joined all some _ =>
    simp only [Worker.shutdown, joined]
    exact ⟨rfl, rfl, rfl, .ended thread rfl rfl all some pending⟩

/-- **Shutting down does all that was sent**, and tells whether the thread crashed. -/
theorem Follows.shutdown (h : Follows s jobs taken m) :
    m.shutdown.1 = farewell m.worker.joined (left s jobs) ∧
      m.shutdown.2.worker.accepting = false ∧ m.shutdown.2.worker.joined = true ∧
      m.begun.length ≤ m.shutdown.2.begun.length ∧ Follows s jobs taken m.shutdown.2 := by
  obtain ⟨answer, accepting, joined, follows⟩ := (h.drain m.pending.length).close h.pending_drain
  rw [drain_joined] at answer
  exact ⟨answer, accepting, joined, length_begun_drain m.pending.length m, follows⟩

end Mailbox

end Tint.Gpu
