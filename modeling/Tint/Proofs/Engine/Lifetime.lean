import Tint.Proofs.Engine.Forecast
import Tint.Proofs.Gpu.Leaks

/-!
# The life of an executor on a device

An executor for frames on a device is open until it is shut down, and has its program from the first
call on that needs one, whatever becomes of that call. Two states are nested in it, its own and that
of the renderer on its worker, and what is refused is refused at one of three places: frames of host
memory by the executor before it looks at anything else, every call of a closed executor before it
gets to the worker, and other frames by the renderer, which has made its program by then.

## The model

* `Call` is what an executor can be asked; `ask` and `after` are one call and calls one after the
  other.
* `Call.job` is what a call sends to the worker, if it sends anything.
* A texture that is not on the device, and one that is read after it was destroyed, end the thread of
  every device: `Placed` says that no call is given one, and `Lost` that the thread ended.

## What is proved

* `GpuEngine.lifetime_spawn`: what every call meets, after any calls to a new executor.
-/

namespace Tint

open Gpu

/-! ### Jobs that return -/

namespace Gpu

/-- A job on a studio returns, keeps what is there, and leaves the program made or not. -/
def Studio.Returns {α : Type} (s : Studio) (job : Job Studio α) (prepared : Bool) : Prop :=
  ∃ (result : Except Fault α) (s' : Studio), job s = (result.mapError .fault, s') ∧ s.Extends s' ∧
    s'.isPrepared = prepared

/-- A job on a device returns, and keeps what is there. -/
def Device.Returns {α : Type} (d : Device) (job : Job Device α) : Prop :=
  ∃ (result : Except Fault α) (d' : Device), job d = (result.mapError .fault, d') ∧ d.Extends d'

/-- A job on a studio returns, or it ends the thread and there is a reason for that. -/
def Studio.Ends {α : Type} (s : Studio) (job : Job Studio α) (prepared : Bool) (reason : Prop) : Prop :=
  s.Returns job prepared ∨ reason ∧ ∃ s', job s = (.error .crash, s')

theorem returned_of_ne {α : Type} {result : Except (Halt Fault) α} (returned : result ≠ .error .crash) :
    ∃ result' : Except Fault α, result = result'.mapError .fault := by
  rcases result with (fault | crash) | a
  · exact ⟨.error fault, rfl⟩
  · exact absurd rfl returned
  · exact ⟨.ok a, rfl⟩

theorem Studio.Returns.map {α β : Type} {s : Studio} {job : Job Studio α} {prepared : Bool}
    (h : s.Returns job prepared) (f : α → β) : s.Returns (f <$> job) prepared := by
  obtain ⟨result, s', ended, later, is⟩ := h
  refine ⟨result.map f, s', ?_, later, is⟩
  rw [Job.map_eq, ended]
  cases result <;> rfl

theorem Studio.Ends.map {α β : Type} {s : Studio} {job : Job Studio α} {prepared : Bool}
    {reason reason' : Prop} (h : s.Ends job prepared reason) (f : α → β)
    (because : reason → reason') : s.Ends (f <$> job) prepared reason' := by
  rcases h with returns | ⟨why, s', ended⟩
  · exact .inl (returns.map f)
  · refine .inr ⟨because why, s', ?_⟩
    rw [Job.map_eq, ended]
    rfl

theorem Device.Returns.onDevice {α : Type} {s : Studio} {job : Job Device α}
    (h : s.device.Returns job) : s.Returns (Studio.onDevice job) s.isPrepared := by
  obtain ⟨result, d, ended, later⟩ := h
  exact ⟨result, _, Studio.onDevice_eq ended, ⟨later, rfl⟩, rfl⟩

namespace Device

variable {d : Device}

theorem returns_upload (healthy : d.Healthy) (f : Frame) : d.Returns (upload f) := by
  by_cases fits : d.fits f.extent = true
  · obtain ⟨g, d', uploaded, later, -⟩ := upload_healthy healthy fits
    exact ⟨.ok g, d', uploaded, later⟩
  · refine ⟨.error (.texture (.outsideLimit f.extent d.limit)), d, ?_, .refl d⟩
    exact Job.bind_error ((Job.bind_ok rfl).trans (congrFun (if_neg fits) d))

theorem lookUp_lost {t : Texture} (unscoped : d.scopes = [])
    (lost : t.device ≠ d.id ∨ t.id ∈ d.destroyed) : lookUp t d = (.error .crash, d) := by
  by_cases foreign : t.device ≠ d.id
  · exact (Job.bind_ok rfl).trans (congrFun (if_pos foreign) d)
  · have gone : d.isDestroyed t.id = true := by simpa [isDestroyed] using lost.resolve_left foreign
    refine (Job.bind_ok rfl).trans ((Job.else_eq foreign).trans ((congrFun (if_pos gone) d).trans ?_))
    simp only [report, unscoped]

/-- Reading back returns, if the texture is there. -/
theorem returns_download (healthy : d.Healthy) (f : GpuFrame) : d.Returns (download f) ∨
    (f.texture.device ≠ d.id ∨ f.texture.id ∈ d.destroyed) ∧
      ∃ d', download f d = (.error .crash, d') := by
  have refused {fault : Fault} (ended : download f d = (.error (.fault fault), d)) :
      d.Returns (download f) := ⟨.error fault, d, ended, .refl d⟩
  let row := f.texture.extent.width * 4
  let size := alignRow row * f.texture.extent.height
  by_cases format : f.texture.format ≠ TexelFormat.frame
  · exact .inl (refused (congrFun (if_pos format) d))
  by_cases usage : (!f.texture.usage.contains .copySrc) = true
  · exact .inl (refused ((Job.else_eq format).trans (congrFun (if_pos usage) d)))
  by_cases long : 1 <<< 32 ≤ row
  · exact .inl (refused ((Job.else_eq format).trans ((Job.else_eq usage).trans
      (congrFun (if_pos long) d))))
  by_cases large : 1 <<< 64 ≤ size
  · exact .inl (refused ((Job.else_eq format).trans ((Job.else_eq usage).trans
      ((Job.else_eq long).trans (congrFun (if_pos large) d)))))
  -- The checks are passed: a buffer is made for the texture, and destroyed whatever comes of it.
  let copying : Device :=
    { d with next := d.next + 1, buffers := ⟨d.next, .readback, size⟩ :: d.buffers }
  have created : createBuffer .readback size d = (.ok ⟨d.next, .readback, size⟩, copying) := rfl
  have passed : download f d = _ := (Job.else_eq format).trans ((Job.else_eq usage).trans
    ((Job.else_eq long).trans ((Job.else_eq large).trans (Job.bind_ok created))))
  by_cases lost : f.texture.device ≠ d.id ∨ f.texture.id ∈ d.destroyed
  · have looked : readBack f.texture row (alignRow row) copying = (.error .crash, copying) :=
      Job.bind_error (lookUp_lost healthy.unscoped lost)
    exact .inr ⟨lost, _, passed.trans (Job.bind_error (Job.cleanedBy_eq looked))⟩
  rw [not_or, not_not] at lost
  have copy := readBack_eq (d := copying) lost.1 lost.2 row (alignRow row)
  have checked := passed.trans (Job.bind_ok (Job.cleanedBy_eq copy))
  have later : d.Extends (copying.destroy d.next) :=
    ⟨rfl, rfl, Nat.le_succ _, destroyed_cons (Nat.le_refl _) (Nat.lt_succ_self _), rfl,
      fun _ h => h⟩
  cases made : Frame.ofBytes f.texture.extent .rgba (unpaddedRows (paddedRows
      (copying.contents f.texture) row (alignRow row) f.texture.extent.height) row (alignRow row)
      f.texture.extent.height) with
  | ok frame =>
    refine .inl ⟨.ok frame, _, checked.trans ?_, later⟩
    rw [made]
    rfl
  | error cause =>
    refine .inl ⟨.error (.frame cause), _, checked.trans ?_, later⟩
    rw [made]
    rfl

end Device

theorem PassEnd.extends {source mask : GpuFrame} {d d' : Device} {result : Except (Halt Fault) GpuFrame}
    (h : PassEnd source mask d result d') (returned : result ≠ .error .crash) : d.Extends d' := by
  have below : d.next < d.next + 2 := by omega
  have above : d.next ≤ d.next + 1 ∧ d.next + 1 < d.next + 2 := by omega
  cases h with
  | unfit => exact .refl d
  | drawn =>
    refine ⟨rfl, rfl, Nat.le_add_right _ 2, ?_, rfl, fun _ said => List.mem_of_mem_tail said⟩
    exact Device.destroyed_cons above.1 above.2
  | reported report =>
    refine ⟨rfl, rfl, Nat.le_add_right _ 2, ?_, rfl, fun _ said => List.mem_of_mem_tail said⟩
    intro id gone
    rcases List.mem_cons.1 gone with rfl | rest
    · exact .inr ⟨Nat.le_refl _, below⟩
    · exact Device.destroyed_cons above.1 above.2 id rest
  | crashed _ _ => exact absurd rfl returned

namespace Studio

variable {s s' : Studio} {source : GpuFrame} {mask : Option GpuFrame}

theorem SetupEnd.extends {result : Except (Halt Fault) Unit} (h : SetupEnd s result s') : s.Extends s' := by
  cases h with
  | kept _ => exact ⟨.refl _, rfl⟩
  | made unprepared shader color =>
    exact ⟨⟨rfl, rfl, Nat.le_succ _, fun _ => .inl, rfl, fun _ said => List.mem_of_mem_tail said⟩, rfl⟩
  | failed unprepared report said =>
    exact ⟨⟨rfl, rfl, Nat.le_succ _, Device.destroyed_cons (Nat.le_refl _) (Nat.lt_succ_self _), rfl,
      fun _ said => List.mem_of_mem_tail said⟩, rfl⟩

theorem SetupEnd.eq_ok {result : Except (Halt Fault) Unit} (h : SetupEnd s result s')
    (healthy : s.device.Healthy) : result = .ok () := by
  cases h with
  | kept _ | made _ _ _ => rfl
  | failed unprepared report said =>
    obtain ⟨verdict, first, rfl⟩ : ∃ verdict, s.device.verdicts.head? = some verdict ∧
        verdict = some report := by
      cases first : s.device.verdicts.head? <;> simp_all
    cases healthy.silent _ (List.mem_of_mem_head? first)

theorem ProcessEnd.extends {result : Except (Halt Fault) (Option GpuFrame)}
    (h : ProcessEnd source mask s result s') (healthy : s.device.Healthy)
    (returned : result ≠ .error .crash) : s.Extends s' ∧ s'.isPrepared = true := by
  cases h with
  | unset setup => cases setup.eq_ok healthy
  | unmasked setup absent => exact ⟨setup.extends, setup.isPrepared⟩
  | refused setup fault => exact ⟨setup.extends, setup.isPrepared⟩
  | passed given setup pass =>
    have drawn := pass.extends fun crashed => returned (by rw [crashed]; rfl)
    exact ⟨⟨setup.extends.device.trans drawn, setup.extends.settings⟩, setup.isPrepared⟩

/-- **A call with frames makes the program**, whatever becomes of it; only a texture of another device
ends the thread. -/
theorem ends_process (healthy : s.device.Healthy) : s.Ends (process source mask) true
    (∃ weights, mask = some weights ∧
      (source.texture.device ≠ s.device.id ∨ weights.texture.device ≠ s.device.id)) := by
  have ended := process_end source mask s
  by_cases crashed : (process source mask s).1 = .error .crash
  · exact .inr ⟨ended.foreign crashed, _, Prod.ext crashed rfl⟩
  · obtain ⟨result, same⟩ := returned_of_ne crashed
    refine .inl ⟨result, (process source mask s).2, ?_, ended.extends healthy crashed⟩
    rw [← same]

end Studio

end Gpu

namespace GpuEngine

/-! ### Calls -/

/-- What an executor can be asked. -/
inductive Call where
  /-- To make its program. -/
  | prepare
  /-- Whether it has its program. -/
  | isPrepared
  /-- To recolor a frame by a mask. -/
  | process (image : Resource) (mask : Option Resource)
  /-- To take a frame in. -/
  | importFrame (frame : Frame)
  /-- To bring a frame out. -/
  | exportFrame (r : Resource)
  /-- To release what it holds. -/
  | shutdown

/-- What an executor answers. -/
inductive Answer where
  /-- It is done. -/
  | done
  /-- Whether there is a program. -/
  | prepared (is : Bool)
  /-- The output, if there is one. -/
  | output (out : Option Resource)
  /-- The frame that was taken in. -/
  | imported (r : Resource)
  /-- The frame that was brought out. -/
  | exported (frame : Frame)

/-- One call. -/
def ask (e : GpuEngine) : Call → Except Fault Answer × GpuEngine
  | .prepare => (e.prepare.1.map fun _ => .done, e.prepare.2)
  | .isPrepared => (e.isPrepared.1.map .prepared, e.isPrepared.2)
  | .process image mask =>
    ((Engine.process e image mask).1.map .output, (Engine.process e image mask).2)
  | .importFrame frame =>
    ((Engine.importFrame e frame).1.map .imported, (Engine.importFrame e frame).2)
  | .exportFrame r => ((Engine.exportFrame e r).1.map .exported, (Engine.exportFrame e r).2)
  | .shutdown => ((Engine.shutdown e).1.map fun _ => .done, (Engine.shutdown e).2)

/-- The executor after calls. -/
def after (e : GpuEngine) (calls : List Call) : GpuEngine :=
  calls.foldl (fun e call => (e.ask call).2) e

namespace Call

/-- The call needs the program: it makes it, or all its frames are on a device. -/
def prepares : Call → Bool
  | prepare => true
  | process image mask => image.residency = .gpu ∧ ∀ m ∈ mask, m.residency = .gpu
  | _ => false

/-- The call hands over a frame of host memory where one of a device is due. -/
def HandsHost : Call → Prop
  | process image mask => image.residency = .cpu ∨ ∃ m ∈ mask, m.residency = .cpu
  | exportFrame r => r.residency = .cpu
  | _ => False

/-- The call hands over a texture of another device, or asks for one that was destroyed. -/
def Misplaced (d : Device) : Call → Prop
  | process (.device source) (some (.device mask)) =>
    source.texture.device ≠ d.id ∨ mask.texture.device ≠ d.id
  | exportFrame (.device f) => f.texture.device ≠ d.id ∨ f.texture.id ∈ d.destroyed
  | _ => False

/-- What a call sends to the worker, unless it is refused before. -/
def job : Call → Except Fault (Job Studio Answer)
  | prepare => .ok ((fun _ => .done) <$> Studio.prepare)
  | isPrepared => .ok (.prepared <$> do return (← Job.get).isPrepared)
  | process image mask =>
    (expectFrames image mask).map fun frames =>
      (fun out => .output (out.map .device)) <$> Studio.process frames.1 frames.2
  | importFrame frame =>
    .ok ((fun f => .imported (.device f)) <$> Studio.onDevice (Device.upload frame))
  | exportFrame r =>
    (expect .exported r).map fun f => .exported <$> Studio.onDevice (Device.download f)
  | shutdown => .ok ((fun _ => .done) <$> Studio.release)

end Call

/-- No call hands over a texture that ends the thread. -/
def Placed (e : GpuEngine) : List Call → Prop
  | [] => True
  | call :: rest => (∀ s, e.worker.thread = .waiting s → ¬ call.Misplaced s.device) ∧
      (e.ask call).2.Placed rest

/-- The thread ended in a job. -/
def Lost (e : GpuEngine) : Prop := ∀ s, e.worker.thread ≠ .waiting s

variable {e : GpuEngine} {call : Call} {α β : Type}

/-- A value that is put in another form is so for who asked. -/
theorem run_map (e : GpuEngine) (f : α → β) (job : Job Studio α) :
    e.run (f <$> job) = ((e.run job).1.map f, (e.run job).2) := by
  have execute (thread : Thread Studio) : Worker.execute (f <$> job) thread =
      ((Worker.execute job thread).1.map f, (Worker.execute job thread).2) := by
    cases thread with
    | waiting s =>
      simp only [Worker.execute, Job.map_eq]
      rcases job s with ⟨(fault | crash) | a, s'⟩ <;> rfl
    | dying | crashed | ended => rfl
  simp only [run, Worker.run, execute]
  by_cases closed : e.closed = true
  · simp only [if_pos closed]
    rfl
  · simp only [if_neg closed]
    by_cases accepting : e.worker.accepting = true
    · simp only [if_pos accepting]
    · simp only [if_neg accepting]
      rfl

theorem process_eq {image : Resource} {mask : Option Resource} {frames : GpuFrame × Option GpuFrame}
    (expected : expectFrames image mask = .ok frames) : Engine.process e image mask =
      ((e.recolor frames.1 frames.2).1.map (·.map .device), (e.recolor frames.1 frames.2).2) := by
  simp only [Engine.process, process, expected]

theorem process_host {image : Resource} {mask : Option Resource} {fault : Fault}
    (expected : expectFrames image mask = .error fault) :
    Engine.process e image mask = (.error fault, e) := by
  simp only [Engine.process, process, expected]

theorem exportFrame_eq {r : Resource} {f : GpuFrame} (expected : expect .exported r = .ok f) :
    Engine.exportFrame e r = e.download f := by
  simp only [Engine.exportFrame, expected]

theorem exportFrame_host {r : Resource} {fault : Fault} (expected : expect .exported r = .error fault) :
    Engine.exportFrame e r = (.error fault, e) := by
  simp only [Engine.exportFrame, expected]

/-- A call that sends a job gets what the worker gives. -/
theorem ask_job {job : Job Studio Answer} (lasting : call ≠ .shutdown) (known : call.job = .ok job) :
    e.ask call = e.run job := by
  cases call with
  | prepare | isPrepared =>
    obtain rfl := Except.ok.inj known
    exact (run_map e _ _).symm
  | process image mask =>
    cases expected : expectFrames image mask with
    | error fault => simp [Call.job, expected, Except.map] at known
    | ok frames =>
      simp only [Call.job, expected, Except.map, Except.ok.injEq] at known
      rw [← known, run_map, ask, process_eq expected, recolor]
      cases (e.run (Studio.process frames.1 frames.2)).1 <;> rfl
  | importFrame frame =>
    obtain rfl := Except.ok.inj known
    rw [run_map, ask]
    simp only [Engine.importFrame, upload]
    cases (e.run (Studio.onDevice (Device.upload frame))).1 <;> rfl
  | exportFrame r =>
    cases expected : expect .exported r with
    | error fault => simp [Call.job, expected, Except.map] at known
    | ok f =>
      simp only [Call.job, expected, Except.map, Except.ok.injEq] at known
      rw [← known, run_map, ask, exportFrame_eq expected, download]
  | shutdown => exact absurd rfl lasting

/-- A call that is refused at once leaves the executor alone. -/
theorem ask_error {fault : Fault} (known : call.job = .error fault) :
    e.ask call = (.error fault, e) := by
  cases call with
  | prepare | isPrepared | importFrame | shutdown => cases known
  | process image mask =>
    cases expected : expectFrames image mask with
    | error fault' =>
      simp only [Call.job, expected, Except.map, Except.error.injEq] at known
      rw [ask, process_host expected, known]
      rfl
    | ok frames => simp [Call.job, expected, Except.map] at known
  | exportFrame r =>
    cases expected : expect .exported r with
    | error fault' =>
      simp only [Call.job, expected, Except.map, Except.error.injEq] at known
      rw [ask, exportFrame_host expected, known]
      rfl
    | ok f => simp [Call.job, expected, Except.map] at known

/-- **A frame of host memory is refused at once.** -/
theorem Call.job_host (host : call.HandsHost) : ∃ fault, call.job = .error fault := by
  cases call with
  | process image mask =>
    rcases image with f | f
    · exact ⟨_, rfl⟩
    · rcases mask with - | g | g
      · simp [HandsHost, Resource.residency] at host
      · exact ⟨_, rfl⟩
      · simp [HandsHost, Resource.residency] at host
  | exportFrame r =>
    rcases r with f | f
    · exact ⟨_, rfl⟩
    · cases host
  | prepare | isPrepared | importFrame | shutdown => exact host.elim

/-- What is refused at once has a frame of host memory, and makes no program. -/
theorem Call.job_error {fault : Fault} (known : call.job = .error fault) :
    fault.kind = .contractViolation ∧ call.prepares = false := by
  cases call with
  | process image mask =>
    rcases image with f | f
    · obtain rfl := Except.error.inj known
      exact ⟨rfl, rfl⟩
    · rcases mask with - | g | g
      · cases known
      · obtain rfl := Except.error.inj known
        exact ⟨rfl, rfl⟩
      · cases known
  | exportFrame r =>
    cases r with
    | host f =>
      obtain rfl := Except.error.inj known
      exact ⟨rfl, rfl⟩
    | device f => cases known
  | prepare | isPrepared | importFrame | shutdown => cases known

/-- **The job of a call on a healthy device** returns, and has made the program if the call needs
it. Only a texture that is not there ends the thread. -/
theorem Call.ends {s : Studio} (healthy : s.device.Healthy) {job : Job Studio Answer}
    (lasting : call ≠ .shutdown) (known : call.job = .ok job) :
    s.Ends job (s.isPrepared || call.prepares) (call.Misplaced s.device) := by
  cases call with
  | prepare =>
    obtain rfl := Except.ok.inj known
    obtain ⟨s', made, later, prepared⟩ := Studio.prepare_healthy healthy
    have returns : s.Returns Studio.prepare true := ⟨.ok (), s', made, later, prepared⟩
    rw [prepares, Bool.or_true]
    exact .inl (returns.map _)
  | isPrepared =>
    obtain rfl := Except.ok.inj known
    have returns : s.Returns (do return (← Job.get).isPrepared) s.isPrepared :=
      ⟨.ok s.isPrepared, s, rfl, ⟨.refl _, rfl⟩, rfl⟩
    show s.Ends _ (s.isPrepared || false) _
    rw [Bool.or_false]
    exact .inl (returns.map _)
  | process image mask =>
    rcases image with f | f
    · cases known
    rcases mask with - | g | g
    · obtain rfl := Except.ok.inj known
      have needs : (Call.process (.device f) none).prepares = true := by
        simp [prepares, Resource.residency]
      rw [needs, Bool.or_true]
      refine (Studio.ends_process healthy).map _ ?_
      rintro ⟨_, ⟨⟩, _⟩
    · cases known
    · obtain rfl := Except.ok.inj known
      have needs : (Call.process (.device f) (some (.device g))).prepares = true := by
        simp [prepares, Resource.residency]
      rw [needs, Bool.or_true]
      refine (Studio.ends_process healthy).map _ ?_
      rintro ⟨_, ⟨⟩, foreign⟩
      exact foreign
  | importFrame frame =>
    obtain rfl := Except.ok.inj known
    show s.Ends _ (s.isPrepared || false) _
    rw [Bool.or_false]
    exact .inl ((Device.returns_upload healthy frame).onDevice.map _)
  | exportFrame r =>
    rcases r with f | f
    · cases known
    obtain rfl := Except.ok.inj known
    show s.Ends _ (s.isPrepared || false) _
    rw [Bool.or_false]
    rcases Device.returns_download healthy f with returns | ⟨lost, d, ended⟩
    · exact .inl (returns.onDevice.map _)
    · have crashed : s.Ends (Studio.onDevice (Device.download f)) s.isPrepared
          ((Call.exportFrame (.device f)).Misplaced s.device) :=
        .inr ⟨lost, _, Studio.onDevice_eq ended⟩
      exact crashed.map _ id
  | shutdown => exact absurd rfl lasting

/-! ### A new executor -/

variable {S : Settings} {limit : Nat} {s : Studio}

/-- **A call of an open executor** leaves it open, and its program is made if the call needs it,
unless the call ends the thread. -/
theorem Serving.ask (h : Serving S limit s e) (lasting : call ≠ .shutdown) :
    (∃ s', Serving S limit s' (e.ask call).2 ∧ s'.isPrepared = (s.isPrepared || call.prepares)) ∨
      call.Misplaced s.device ∧ (e.ask call).2.Lost := by
  cases known : call.job with
  | error fault =>
    rw [ask_error known, (Call.job_error known).2, Bool.or_false]
    exact .inl ⟨s, h, rfl⟩
  | ok job =>
    rw [ask_job lasting known]
    rcases Call.ends h.healthy lasting known with ⟨result, s', done, later, prepared⟩ | ⟨why, s', crashed⟩
    · obtain ⟨e', ran, serving⟩ := h.run result done later
      rw [ran]
      exact .inl ⟨s', serving, prepared⟩
    · refine .inr ⟨why, ?_⟩
      have dying : (e.run job).2.worker.thread = .dying := by
        simp only [GpuEngine.run, h.opened, Worker.run, h.accepting, h.waiting, Worker.execute, crashed]
        rfl
      intro s'' waiting
      rw [dying] at waiting
      cases waiting

/-- No job brings a thread back. -/
theorem Lost.run (lost : e.Lost) (job : Job Studio α) : (e.run job).2.Lost := by
  intro s waiting
  unfold GpuEngine.run Worker.run at waiting
  cases thread : e.worker.thread with
  | waiting s => exact lost s thread
  | dying | crashed | ended =>
    cases closed : e.closed <;> cases accepting : e.worker.accepting <;>
      simp [closed, accepting, thread, Worker.execute] at waiting

/-- No call brings a thread back. -/
theorem Lost.ask (lost : e.Lost) (lasting : call ≠ .shutdown) : (e.ask call).2.Lost := by
  cases known : call.job with
  | error fault =>
    rw [ask_error known]
    exact lost
  | ok job =>
    rw [ask_job lasting known]
    exact lost.run job

/-- No calls bring a thread back. -/
theorem Lost.after (lost : e.Lost) {calls : List Call} (lasting : .shutdown ∉ calls) :
    (e.after calls).Lost := by
  induction calls generalizing e with
  | nil => exact lost
  | cons first rest ih =>
    rw [List.mem_cons, not_or] at lasting
    exact ih (lost.ask (Ne.symm lasting.1)) lasting.2

/-- **Calls of an open executor** leave it open, and its program is made by the first that needs
it, unless one of them ends the thread. -/
theorem Serving.after (h : Serving S limit s e) {calls : List Call} (lasting : .shutdown ∉ calls) :
    (∃ s', Serving S limit s' (e.after calls) ∧
      s'.isPrepared = (s.isPrepared || calls.any Call.prepares)) ∨
    ¬ e.Placed calls ∧ (e.after calls).Lost := by
  induction calls generalizing e s with
  | nil => exact .inl ⟨s, h, (Bool.or_false _).symm⟩
  | cons first rest ih =>
    rw [List.mem_cons, not_or] at lasting
    rcases h.ask (Ne.symm lasting.1) with ⟨s', serving, prepared⟩ | ⟨why, lost⟩
    · rcases ih serving lasting.2 with ⟨s'', serving', prepared'⟩ | ⟨why, lost⟩
      · refine .inl ⟨s'', serving', ?_⟩
        rw [prepared', prepared, List.any_cons, Bool.or_assoc]
      · exact .inr ⟨fun placed => why placed.2, lost⟩
    · exact .inr ⟨fun placed => placed.1 s h.waiting why, lost.after lasting.2⟩

/-- **The life of an executor**, after calls. -/
structure Lifetime (e : GpuEngine) (before : List Call) : Prop where
  /-- Until it is shut down, it has its program if a call before needed it, unless a call was given a
  texture that ended the thread. -/
  prepared : .shutdown ∉ before →
    (e.after before).isPrepared.1 = .ok (before.any Call.prepares) ∨
      ¬ e.Placed before ∧ (e.after before).Lost
  /-- A frame of host memory is refused whatever the worker is like. -/
  host : ∀ call : Call, call.HandsHost → ∃ fault : Fault, fault.kind = .contractViolation ∧
    ∀ worker, ({ e.after before with worker } : GpuEngine).ask call =
      (.error fault, { e.after before with worker })
  /-- Once it is shut down, so is the worker. -/
  stopped : .shutdown ∈ before → (e.after before).worker.isShutDown = true
  /-- Once it is shut down, every other call is refused whatever the worker is like. -/
  closed : .shutdown ∈ before → ∀ call : Call, call ≠ .shutdown →
    ∃ fault : Fault, fault.kind = .contractViolation ∧
      ∀ worker, ({ e.after before with worker } : GpuEngine).ask call =
        (.error fault, { e.after before with worker })
  /-- Once it is shut down, shutting it down does nothing. -/
  again : .shutdown ∈ before → ∀ worker,
    ({ e.after before with worker } : GpuEngine).ask .shutdown =
      (.ok .done, { e.after before with worker })

theorem run_closed (closed : e.closed = true) (job : Job Studio α) :
    e.run job = (.error (.engine (.closed .gpu)), e) := by
  simp only [run, if_pos closed]

theorem run_closed_eq (job : Job Studio α) : (e.run job).2.closed = e.closed := by
  unfold run
  split <;> rfl

/-- A closed executor refuses every call but shutting down. -/
theorem ask_closed (lasting : call ≠ .shutdown) :
    ∃ fault : Fault, fault.kind = .contractViolation ∧
      ∀ e : GpuEngine, e.closed = true → e.ask call = (.error fault, e) := by
  cases known : call.job with
  | error fault => exact ⟨fault, (Call.job_error known).1, fun _ _ => ask_error known⟩
  | ok job =>
    exact ⟨_, rfl, fun _ closed => (ask_job lasting known).trans (run_closed closed job)⟩

theorem shutdown_accepting {σ : Type} (w : Worker σ) : w.shutdown.2.accepting = false := by
  unfold Worker.shutdown
  split
  · rfl
  · split <;> rfl

/-- Shutting a closed executor down does nothing. -/
theorem shutdown_again (closed : e.closed = true) : e.ask .shutdown = (.ok .done, e) := by
  simp only [ask, Engine.shutdown, shutdown, if_pos closed]
  rfl

theorem shutdown_closed (opened : ¬ e.closed = true) :
    (e.ask .shutdown).2.closed = true ∧ (e.ask .shutdown).2.worker.accepting = false := by
  simp only [ask, Engine.shutdown, shutdown, if_neg opened]
  exact ⟨trivial, shutdown_accepting _⟩

/-- A closed executor has shut its worker down. -/
def Sealed (e : GpuEngine) : Prop := e.closed = true → e.worker.accepting = false

/-- Every call leaves the worker of a closed executor shut down. -/
theorem Sealed.ask (h : e.Sealed) (call : Call) : (e.ask call).2.Sealed := by
  by_cases closed : e.closed = true
  · by_cases last : call = .shutdown
    · rw [last, shutdown_again closed]
      exact h
    · obtain ⟨fault, -, refused⟩ := ask_closed last
      rw [refused e closed]
      exact h
  · by_cases last : call = .shutdown
    · rw [last]
      exact fun _ => (shutdown_closed closed).2
    · cases known : call.job with
      | error fault =>
        rw [ask_error known]
        exact h
      | ok job =>
        rw [ask_job last known]
        intro later
        rw [run_closed_eq] at later
        exact absurd later closed

theorem after_closed (closed : e.closed = true) (calls : List Call) : e.after calls = e := by
  induction calls with
  | nil => rfl
  | cons first rest ih =>
    have same : (e.ask first).2 = e := by
      by_cases last : first = .shutdown
      · rw [last, shutdown_again closed]
      · obtain ⟨fault, -, refused⟩ := ask_closed last
        rw [refused e closed]
    rw [after, List.foldl_cons, same]
    exact ih

/-- **An executor that was shut down is closed**, whatever was asked before and after. -/
theorem Sealed.closed_after (h : e.Sealed) {calls : List Call} (stopped : .shutdown ∈ calls) :
    (e.after calls).closed = true ∧ (e.after calls).worker.accepting = false := by
  induction calls generalizing e with
  | nil => cases stopped
  | cons first rest ih =>
    rcases List.mem_cons.1 stopped with rfl | later
    · have closed : (e.ask .shutdown).2.closed = true := by
        by_cases before : e.closed = true
        · rw [shutdown_again before]
          exact before
        · exact (shutdown_closed before).1
      rw [after, List.foldl_cons]
      change ((e.ask .shutdown).2.after rest).closed = true ∧ _
      rw [show List.foldl _ _ _ = (e.ask .shutdown).2.after rest from rfl, after_closed closed]
      exact ⟨closed, h.ask .shutdown closed⟩
    · exact ih (h.ask first) later

/-- A new executor. -/
def start (adapter : Adapter) (S : Settings) : GpuEngine where
  worker := { thread := .waiting ⟨adapter.device, { settings := S }⟩, adapter := adapter.name }
  settings := S

theorem serving_start {adapter : Adapter} (healthy : adapter.device.Healthy) (S : Settings) :
    Serving S adapter.device.limit ⟨adapter.device, { settings := S }⟩ (start adapter S) :=
  ⟨rfl, rfl, rfl, healthy, rfl, rfl⟩

/-- **The life of an executor on a healthy device.** -/
theorem lifetime_spawn {adapter : Adapter} {S : Settings} (healthy : adapter.device.Healthy)
    (spawned : spawn (some adapter) S = .ok e) (before : List Call) : e.Lifetime before := by
  obtain rfl : start adapter S = e := Except.ok.inj spawned
  have whole (stopped : .shutdown ∈ before) :=
    Sealed.closed_after (e := start adapter S) nofun stopped
  refine ⟨?_, ?_, ?_, ?_, ?_⟩
  · intro lasting
    rcases (serving_start healthy S).after lasting with ⟨s, later, prepared⟩ | ended
    · have asked : (do return (← Job.get).isPrepared : Job Studio Bool) s =
          ((Except.ok s.isPrepared : Except Fault Bool).mapError .fault, s) := rfl
      obtain ⟨e', ran, -⟩ := later.run _ asked ⟨.refl _, rfl⟩
      rw [isPrepared, ran, prepared]
      exact .inl rfl
    · exact .inr ended
  · intro call host
    obtain ⟨fault, known⟩ := Call.job_host host
    exact ⟨fault, (Call.job_error known).1, fun _ => ask_error known⟩
  · intro stopped
    rw [Worker.isShutDown, (whole stopped).2]
    rfl
  · intro stopped call lasting
    obtain ⟨fault, kind, refused⟩ := ask_closed lasting
    exact ⟨fault, kind, fun _ => refused _ (whole stopped).1⟩
  · exact fun stopped _ => shutdown_again (whole stopped).1

/-- A frame of host memory makes no program; a frame of the device does, also without a mask. -/
theorem lifetime_spawn_unmasked :
    ((start { name := "adapter" } (.ofColor ⟨12, 200, 99⟩ .red)).after
      [.process (.host CpuEngine.column) none]).isPrepared.1 = .ok false ∧
    ((start { name := "adapter" } (.ofColor ⟨12, 200, 99⟩ .red)).after
      [.process (.host CpuEngine.column) none, .process (.device Studio.square) none]).isPrepared.1 =
        .ok true := by
  have healthy : ({ name := "adapter" } : Adapter).device.Healthy := ⟨by simp, rfl, by simp⟩
  have spawned : spawn (some { name := "adapter" }) (.ofColor ⟨12, 200, 99⟩ .red) =
      .ok (start { name := "adapter" } (.ofColor ⟨12, 200, 99⟩ .red)) := rfl
  have first := ((lifetime_spawn healthy spawned [.process (.host CpuEngine.column) none]).prepared
    (by simp)).resolve_right fun ended => ended.1 ⟨by simp [Call.Misplaced], trivial⟩
  have second := ((lifetime_spawn healthy spawned [.process (.host CpuEngine.column) none,
    .process (.device Studio.square) none]).prepared (by simp)).resolve_right fun ended =>
      ended.1 ⟨by simp [Call.Misplaced], by simp [Call.Misplaced], trivial⟩
  refine ⟨first.trans ?_, second.trans ?_⟩ <;> simp [Call.prepares, Resource.residency]

end GpuEngine

end Tint
