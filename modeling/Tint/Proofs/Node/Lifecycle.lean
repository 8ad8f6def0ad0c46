import Mathlib.Data.List.Chain
import Tint.Proofs.Node.Calls

/-!
# The life of a node

Four fields of a node have to agree with each other and with the calls that were made:
nothing in the type says so. `Agrees` says what they have in common after any calls. Every
step keeps it (`Agrees.step`), whatever the executor answers, and so it holds of every run
(`agrees_trace`).

The stage needs no invariant: `handle_moves` reads off the steps that it only goes forward.
-/

namespace Tint

namespace NodeStage

/-- A stage and the one after a call. -/
inductive Moves : NodeStage → NodeStage → Prop where
  /-- The call leaves the stage. -/
  | stays (s : NodeStage) : Moves s s
  /-- The node is opened. -/
  | opens : Moves uninitialized ready
  /-- An open node is closed. -/
  | closes : Moves ready closed
  /-- A node is closed before it is opened. -/
  | abandons : Moves uninitialized closed

end NodeStage

namespace Node

variable {ε : Type} [Engine ε] {create : Residency → Settings → Except Fault ε}

/-! ### Stages -/

omit [Engine ε] in
@[simp] theorem record_stage (n : Node ε) (request : Request ε) (answer : Except Fault Answer) :
    (n.record request answer).stage = n.stage := by
  unfold record
  split <;> rfl

omit [Engine ε] in
@[simp] theorem record_engine (n : Node ε) (request : Request ε) (answer : Except Fault Answer) :
    (n.record request answer).engine = n.engine := by
  unfold record
  split <;> rfl

/-- A call moves the stage forward or not at all. -/
theorem handle_moves (create : Residency → Settings → Except Fault ε) (n : Node ε)
    (request : Request ε) : n.stage.Moves (n.handle create request).2.stage := by
  generalize ha : (n.handle create request).1 = answer
  generalize hn : (n.handle create request).2 = n'
  have step := handle_step create n request
  rw [ha, hn] at step
  cases step with
  | refused => exact .stays _
  | opened _ fresh => rw [fresh]; exact .opens
  | passed => rw [record_stage]; exact .stays _
  | closed =>
    cases n.stage with
    | uninitialized => exact .abandons
    | ready => exact .closes
    | closed => exact .stays _

theorem isChain_stages (create : Residency → Settings → Except Fault ε) (n : Node ε)
    (requests : List (Request ε)) :
    List.IsChain NodeStage.Moves
      (n.stage :: (trace create n requests).map (·.after.stage)) := by
  induction requests generalizing n with
  | nil => exact .singleton _
  | cons request rest ih =>
    rw [trace_cons, List.map_cons]
    exact .cons_cons (handle_moves create n request) (ih _)

/-! ### The invariant -/

/-- The node is what the calls so far make of it. -/
structure Agrees (create : Residency → Settings → Except Fault ε) (events : List (Event ε))
    (n : Node ε) : Prop where
  /-- The node has an executor exactly while it is open. -/
  engine_iff : n.engine.isSome ↔ n.stage = .ready
  /-- An open node was bound once, to streams in the memory that it shows. -/
  bound : n.stage = .ready → ∃ streams r, events.filterMap Event.streams? = [streams] ∧
    streams.residency = .ok r ∧ n.residency? = some r
  /-- A node that is yet to be opened was not bound. -/
  unbound : n.stage = .uninitialized → events.filterMap Event.streams? = []
  /-- The outputs are counted. -/
  emitted : n.emitted = (events.filterMap Event.packet?).length
  /-- An output has the time of its call. -/
  packets : ∀ event ∈ events, ∀ packet, event.packet? = some packet →
    event.request.time? = some packet.timestamp
  /-- The node keeps the time of the last frame taken. -/
  last : n.last = (events.filterMap Event.time?).getLast?
  /-- The times of the frames taken increase. -/
  increasing : (events.filterMap Event.time?).Pairwise (· < ·)
  /-- Only other code may say that the node has no executor. -/
  foreign : ∀ event ∈ events, ∀ call, event.answer = .error (.node (.noEngine call)) →
    Foreign create (.node (.noEngine call))

theorem Asked.residency (steady : Engine.Steady ε) {e e' : ε} {request : Request ε}
    {answer : Except Fault Answer} (h : Asked e request answer e') :
    Engine.residency e' = Engine.residency e := by
  cases h with
  | process time image mask => exact steady.process e image mask
  | importFrame frame => exact steady.importFrame e frame
  | exportFrame frame => exact steady.exportFrame e frame

theorem Asked.streams? {e e' : ε} {request : Request ε} {answer : Except Fault Answer}
    (h : Asked e request answer e') : request.streams? = none := by
  cases h <;> rfl

theorem Asked.foreign {e e' : ε} {request : Request ε} {answer : Except Fault Answer}
    (h : Asked e request answer e') {fault : Fault} (failed : answer = .error fault) :
    Foreign create fault := by
  cases h with
  | process time image mask => exact .process e image mask (eq_error_of_map failed)
  | importFrame frame => exact .importFrame e frame (eq_error_of_map failed)
  | exportFrame frame => exact .exportFrame e frame (eq_error_of_map failed)

/-- An output of an executor gets the time of the call. -/
theorem Asked.packet_time {e e' : ε} {request : Request ε} {answer : Except Fault Answer}
    {n : Node ε} (h : Asked e request answer e') {packet : Packet Resource}
    (given : Event.packet? ⟨request, answer, n⟩ = some packet) :
    request.time? = some packet.timestamp := by
  cases h with
  | process time image mask =>
    cases result : (Engine.process e image mask).1 with
    | error fault =>
      rw [result] at given
      cases given
    | ok out =>
      rw [result] at given
      cases out with
      | none => cases given
      | some frame => cases given; rfl
  | importFrame frame =>
    cases result : (Engine.importFrame e frame).1 <;>
      (rw [result] at given; cases given)
  | exportFrame frame =>
    cases result : (Engine.exportFrame e frame).1 <;>
      (rw [result] at given; cases given)

theorem Asked.record_last {e e' : ε} {request : Request ε} {answer : Except Fault Answer}
    (h : Asked e request answer e') (n after : Node ε) :
    (n.record request answer).last = (Event.time? ⟨request, answer, after⟩).or n.last := by
  cases h with
  | process time image mask => cases (Engine.process e image mask).1 <;> rfl
  | importFrame frame => cases (Engine.importFrame e frame).1 <;> rfl
  | exportFrame frame => cases (Engine.exportFrame e frame).1 <;> rfl

theorem Asked.record_emitted {e e' : ε} {request : Request ε} {answer : Except Fault Answer}
    (h : Asked e request answer e') (n after : Node ε) :
    (n.record request answer).emitted =
      n.emitted + (Event.packet? ⟨request, answer, after⟩).toList.length := by
  cases h with
  | process time image mask => cases (Engine.process e image mask).1 <;> rfl
  | importFrame frame => cases (Engine.importFrame e frame).1 <;> rfl
  | exportFrame frame => cases (Engine.exportFrame e frame).1 <;> rfl

theorem agrees_fresh : Agrees create [] (fresh : Node ε) where
  engine_iff := by constructor <;> nofun
  bound := nofun
  unbound _ := rfl
  emitted := rfl
  packets _ h := absurd h List.not_mem_nil
  last := rfl
  increasing := .nil
  foreign _ h := absurd h List.not_mem_nil

theorem filterMap_concat {α β : Type} (f : α → Option β) (l : List α) (a : α) :
    (l ++ [a]).filterMap f = l.filterMap f ++ (f a).toList := by
  rw [List.filterMap_append]
  cases h : f a <;> simp [h]

theorem lt_of_increasing {times : List Timestamp} {time : Timestamp}
    (increasing : times.Pairwise (· < ·)) (after : ∀ last, times.getLast? = some last → last < time)
    {t : Timestamp} (h : t ∈ times) : t < time := by
  obtain rfl | ⟨init, last, rfl⟩ := times.eq_nil_or_concat
  · cases h
  · rw [List.concat_eq_append] at increasing after h
    have latest := after last (List.getLast?_concat)
    obtain h | h := List.mem_append.1 h
    · exact Int.lt_trans ((List.pairwise_append.1 increasing).2.2 t h last (by simp)) latest
    · rwa [List.mem_singleton.1 h]

/-- What a call adds to the counts. The fields of the stage are left to the caller. -/
theorem Agrees.extend {events : List (Event ε)} {n n' : Node ε} (h : Agrees create events n)
    {event : Event ε} (engine_iff : n'.engine.isSome ↔ n'.stage = .ready)
    (bound : n'.stage = .ready → ∃ streams r,
      (events ++ [event]).filterMap Event.streams? = [streams] ∧ streams.residency = .ok r ∧
        n'.residency? = some r)
    (unbound : n'.stage = .uninitialized → (events ++ [event]).filterMap Event.streams? = [])
    (emitted : n'.emitted = n.emitted + event.packet?.toList.length)
    (packet : ∀ packet, event.packet? = some packet →
      event.request.time? = some packet.timestamp)
    (last : n'.last = event.time?.or n.last)
    (after : ∀ time last, event.time? = some time → n.last = some last → last < time)
    (foreign : ∀ call, event.answer = .error (.node (.noEngine call)) →
      Foreign create (.node (.noEngine call))) :
    Agrees create (events ++ [event]) n' where
  engine_iff := engine_iff
  bound := bound
  unbound := unbound
  emitted := by rw [emitted, h.emitted, filterMap_concat, List.length_append]
  packets e he := by
    obtain he | he := List.mem_append.1 he
    · exact h.packets e he
    · rw [List.mem_singleton.1 he]
      exact packet
  last := by
    rw [last, h.last, filterMap_concat, List.getLast?_append]
    cases event.time? <;> rfl
  increasing := by
    rw [filterMap_concat, List.pairwise_append]
    refine ⟨h.increasing, ?_, ?_⟩
    · cases event.time? <;> simp
    · intro s hs t ht
      rw [h.last] at after
      exact lt_of_increasing h.increasing
        (fun last hl => after t last (Option.mem_toList.1 ht) hl) hs
  foreign e he := by
    obtain he | he := List.mem_append.1 he
    · exact h.foreign e he
    · rw [List.mem_singleton.1 he]
      exact foreign

omit [Engine ε] in
theorem streams_concat (events : List (Event ε)) {event : Event ε} (h : event.streams? = none) :
    (events ++ [event]).filterMap Event.streams? = events.filterMap Event.streams? := by
  rw [filterMap_concat, h]
  exact List.append_nil _

theorem Agrees.refused {events : List (Event ε)} {n : Node ε} (h : Agrees create events n)
    {request : Request ε} {fault : Fault} (truthful : Truthful create n fault) :
    Agrees create (events ++ [⟨request, .error fault, n⟩]) n := by
  have streams := streams_concat events (show Event.streams? ⟨request, .error fault, n⟩ = none from rfl)
  refine h.extend h.engine_iff (streams ▸ h.bound) (streams ▸ h.unbound) rfl (by rintro _ ⟨⟩) rfl
    (by rintro _ _ ⟨⟩) ?_
  rintro call ⟨⟩
  obtain foreign | ⟨ready, none⟩ := truthful call rfl
  · exact foreign
  · have := h.engine_iff.2 ready
    rw [none] at this
    cases this

/-- Opening keeps the agreement. -/
theorem Agrees.opened {events : List (Event ε)} {n : Node ε} (h : Agrees create events n)
    {request : Request ε} {streams : Binding} {e : ε} (binds : request.streams? = some streams)
    (fresh : n.stage = .uninitialized) (valid : streams.residency = .ok (Engine.residency e)) :
    Agrees create
      (events ++ [⟨request, .ok .done, { n with engine := some e, stage := .ready }⟩])
      { n with engine := some e, stage := .ready } := by
  have untimed : request.time? = none := by
    cases request <;> first | rfl | cases binds
  refine h.extend ⟨fun _ => rfl, fun _ => rfl⟩ (fun _ => ⟨streams, _, ?_, valid, rfl⟩) nofun rfl
    (by rintro _ ⟨⟩) ?_ ?_ (by rintro _ ⟨⟩)
  · rw [filterMap_concat, h.unbound fresh, Event.streams?, binds]
    rfl
  · rw [Event.time?, untimed]
    rfl
  · intro time last timed
    rw [Event.time?, untimed] at timed
    cases timed

/-- A call of the executor keeps the agreement. -/
theorem Agrees.passed (steady : Engine.Steady ε) {events : List (Event ε)} {n : Node ε}
    (h : Agrees create events n) {request : Request ε} {answer : Except Fault Answer} {e e' : ε}
    (ready : n.stage = .ready) (engine : n.engine = some e)
    (inTime : ∀ time last, request.time? = some time → n.last = some last → last < time)
    (asked : Asked e request answer e') :
    Agrees create (events ++ [⟨request, answer, (n.work e').record request answer⟩])
      ((n.work e').record request answer) := by
  set n' := (n.work e').record request answer with hn
  have stage : n'.stage = .ready := by rw [hn, record_stage]; exact ready
  have working : n'.engine = some e' := by rw [hn, record_engine]; rfl
  have unbinding : Event.streams? ⟨request, answer, n'⟩ = none := by
    cases answer with
    | error fault => rfl
    | ok a => exact asked.streams?
  refine h.extend ⟨fun _ => stage, fun _ => by rw [working]; rfl⟩ ?_ ?_
    (asked.record_emitted (n.work e') n') ?_ (asked.record_last (n.work e') n') ?_ ?_
  · intro _
    obtain ⟨b, r, once, valid, shown⟩ := h.bound ready
    refine ⟨b, r, (streams_concat events unbinding).trans once, valid, ?_⟩
    rw [residency?, working, Option.map_some, asked.residency steady]
    rwa [residency?, engine] at shown
  · rw [stage]
    nofun
  · intro packet given
    exact asked.packet_time given
  · intro time last timed
    refine inTime time last ?_
    cases answer with
    | error fault => cases timed
    | ok a => exact timed
  · intro call failed
    exact asked.foreign failed

theorem Agrees.closed {events : List (Event ε)} {n : Node ε} (h : Agrees create events n)
    {result : Except Fault Unit} (fault : ∀ fault, result = .error fault → Foreign create fault)
    (retired : Option ε) :
    Agrees create
      (events ++ [⟨.close, result.map fun _ => .done,
        { n with stage := .closed, engine := none, retired := retired }⟩])
      { n with stage := .closed, engine := none, retired := retired } := by
  refine h.extend ⟨nofun, nofun⟩ nofun nofun ?_ ?_ ?_ ?_ ?_
  · cases result <;> rfl
  · cases result <;> rintro _ ⟨⟩
  · cases result <;> rfl
  · cases result <;> rintro _ _ ⟨⟩
  · intro call failed
    exact fault _ (eq_error_of_map failed)

/-- **A step keeps the agreement**, whatever the executor answers. -/
theorem Agrees.step (steady : Engine.Steady ε) {events : List (Event ε)} {n n' : Node ε}
    (h : Agrees create events n) {request : Request ε} {answer : Except Fault Answer}
    (step : Step create n request answer n') :
    Agrees create (events ++ [⟨request, answer, n'⟩]) n' := by
  cases step with
  | refused _ truthful => exact h.refused truthful
  | opened binds fresh valid => exact h.opened binds fresh valid
  | passed ready engine inTime asked => exact h.passed steady ready engine inTime asked
  | closed fault => exact h.closed fault _

/-- **A run keeps the agreement.** -/
theorem Agrees.run (steady : Engine.Steady ε) {events : List (Event ε)} {n : Node ε}
    (h : Agrees create events n) (requests : List (Request ε)) :
    Agrees create (events ++ trace create n requests) (run create n requests).2 := by
  induction requests generalizing events n with
  | nil => rwa [trace, List.append_nil]
  | cons request rest ih =>
    have := ih (h.step steady (handle_step create n request))
    rwa [List.append_assoc] at this

/-- **What holds of a new node after any calls.** A part of a run from its start is a run, so
this holds at every point of a run. -/
theorem run_fresh (steady : Engine.Steady ε) (create : Residency → Settings → Except Fault ε)
    (requests : List (Request ε)) :
    Agrees create (trace create fresh requests) (run create fresh requests).2 ∧
      ((run create fresh requests).2.stage ≠ .ready →
        (run create fresh requests).2.residency? = none) ∧
      List.IsChain NodeStage.Moves
        (.uninitialized :: (trace create fresh requests).map (·.after.stage)) ∧
      ∀ call call', (run create fresh requests).2.readyEngine call ≠
        .error (.node (.noEngine call')) := by
  have agrees : Agrees create ([] ++ trace create fresh requests) (run create fresh requests).2 :=
    agrees_fresh.run steady requests
  rw [List.nil_append] at agrees
  refine ⟨agrees, ?_, isChain_stages create fresh requests, ?_⟩
  · intro notReady
    rw [residency?, Option.map_eq_none_iff, ← Option.not_isSome_iff_eq_none, agrees.engine_iff]
    exact notReady
  · intro call call' h
    obtain ⟨e, -, -, eq⟩ | ⟨ready, none, -⟩ | eq := readyEngine_cases _ call
    · rw [eq] at h
      cases h
    · have := agrees.engine_iff.2 ready
      rw [none] at this
      cases this
    · rw [eq] at h
      cases h

/-- One pixel is recolored and counted. -/
theorem run_fresh_short :
    (run cpuOnly fresh shortRun).2.emitted = 1 ∧ (run cpuOnly fresh shortRun).2.stage = .closed ∧
      (run cpuOnly fresh shortRun).2.residency? = none := by
  obtain ⟨agrees, none, -, -⟩ := run_fresh CpuEngine.steady cpuOnly shortRun
  exact ⟨agrees.emitted, rfl, none nofun⟩

end Node

end Tint
