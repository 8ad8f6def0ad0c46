import Tint.Engine.Gpu
import Tint.Node
import Tint.Proofs.Recolor
import Tint.Proofs.Results

/-!
# What a call can do to a node

A call on a node goes through its checks in order and ends at the first that fails. What may
come of it is said once, by `Step`, which has a constructor for each way a call can end, and
`handle_step` shows that there is no other way. What holds of every run follows from it, with
no second look at the checks.

## The model

* `Asked` is the executor's part in a call: what it answers, and what it is afterwards.
* `Step` is a call with its answer and the node after it.
* `Event` is a call of a run, and `trace` is a run with everything that can be seen of it.
* `Engine.Steady` and `Engine.FailsClean` are what may be asked of executors.

## What is proved

* `handle_step`: every call is a step.
* `AnyEngine.steady`: the executors of either memory stay in theirs.
-/

namespace Tint

/-! ### Executors -/

/-- Executors that stay in one memory. -/
structure Engine.Steady (ε : Type) [Engine ε] : Prop where
  /-- Recoloring keeps the memory. -/
  process : ∀ (e : ε) (image : Resource) (mask : Option Resource),
    residency (Engine.process e image mask).2 = residency e
  /-- Taking a frame in keeps the memory. -/
  importFrame : ∀ (e : ε) (frame : Frame), residency (Engine.importFrame e frame).2 = residency e
  /-- Bringing a frame out keeps the memory. -/
  exportFrame : ∀ (e : ε) (frame : Resource),
    residency (Engine.exportFrame e frame).2 = residency e

/-- Executors that a failing call leaves as they are. -/
structure Engine.FailsClean (ε : Type) [Engine ε] : Prop where
  /-- Nothing comes of failing to recolor. -/
  process : ∀ {e : ε} {image : Resource} {mask : Option Resource} {fault : Fault},
    (Engine.process e image mask).1 = .error fault → (Engine.process e image mask).2 = e
  /-- Nothing comes of failing to take a frame in. -/
  importFrame : ∀ {e : ε} {frame : Frame} {fault : Fault},
    (Engine.importFrame e frame).1 = .error fault → (Engine.importFrame e frame).2 = e
  /-- Nothing comes of failing to bring a frame out. -/
  exportFrame : ∀ {e : ε} {frame : Resource} {fault : Fault},
    (Engine.exportFrame e frame).1 = .error fault → (Engine.exportFrame e frame).2 = e

theorem Engine.Steady.sum {α β : Type} [Engine α] [Engine β] (hα : Steady α) (hβ : Steady β) :
    Steady (α ⊕ β) where
  process := by
    rintro (e | e) image mask
    · exact hα.process e image mask
    · exact hβ.process e image mask
  importFrame := by
    rintro (e | e) frame
    · exact hα.importFrame e frame
    · exact hβ.importFrame e frame
  exportFrame := by
    rintro (e | e) frame
    · exact hα.exportFrame e frame
    · exact hβ.exportFrame e frame

/-- The executors for frames in host memory stay there. -/
theorem CpuEngine.steady : Engine.Steady CpuEngine where
  process _ _ _ := rfl
  importFrame _ _ := rfl
  exportFrame _ _ := rfl

/-- The executors of either memory stay in it. -/
theorem AnyEngine.steady : Engine.Steady AnyEngine :=
  CpuEngine.steady.sum ⟨fun _ _ _ => rfl, fun _ _ => rfl, fun _ _ => rfl⟩

theorem CpuEngine.failsClean : Engine.FailsClean CpuEngine where
  process _ := rfl
  importFrame _ := rfl
  exportFrame _ := rfl

namespace Node

variable {ε : Type} [Engine ε]

/-! ### Steps -/

/-- The answer of a fault that code outside the node supplies: an executor, or what makes
one. -/
inductive Foreign (create : Residency → Settings → Except Fault ε) (fault : Fault) : Prop where
  /-- Making an executor fails. -/
  | create (r : Residency) (s : Settings) (h : create r s = .error fault)
  /-- Recoloring fails. -/
  | process (e : ε) (image : Resource) (mask : Option Resource)
    (h : (Engine.process e image mask).1 = .error fault)
  /-- Taking a frame in fails. -/
  | importFrame (e : ε) (frame : Frame) (h : (Engine.importFrame e frame).1 = .error fault)
  /-- Bringing a frame out fails. -/
  | exportFrame (e : ε) (frame : Resource) (h : (Engine.exportFrame e frame).1 = .error fault)
  /-- Shutting down fails. -/
  | shutdown (e : ε) (h : (Engine.shutdown e).1 = .error fault)

/-- If a fault says that the node has no executor, then that is so, or other code says it. -/
def Truthful (create : Residency → Settings → Except Fault ε) (n : Node ε) (fault : Fault) : Prop :=
  ∀ call, fault = .node (.noEngine call) → Foreign create fault ∨ n.stage = .ready ∧ n.engine = none

/-- The streams that a request binds a node to. -/
def Request.streams? : Request ε → Option Binding
  | .openBy config => some config.binding
  | .openWith streams _ => some streams
  | _ => none

/-- The time of a request to recolor. -/
def Request.time? : Request ε → Option Timestamp
  | .process time _ _ => some time
  | _ => none

/-- The frames of a request to recolor. -/
def Request.frames : Request ε → List Resource
  | .process _ image mask => image :: mask.toList
  | _ => []

/-- A request to open a node brings an executor, or one is made for it. -/
inductive Request.Supplies (create : Residency → Settings → Except Fault ε) :
    Request ε → ε → Prop where
  /-- The executor is made for the configuration. -/
  | openBy {config : NodeConfig} {e : ε} (made : engineFor create config = .ok e) :
    Supplies create (.openBy config) e
  /-- The executor comes with the request. -/
  | openWith (streams : Binding) (e : ε) : Supplies create (.openWith streams e) e

/-- An executor's part in a call: its answer, and the executor after it. -/
inductive Asked (e : ε) : Request ε → Except Fault Answer → ε → Prop where
  /-- The executor recolors. Its output gets the time of the call. -/
  | process (time : Timestamp) (image : Resource) (mask : Option Resource) :
    Asked e (.process time image mask)
      ((Engine.process e image mask).1.map fun out => .output (out.map (⟨time, ·⟩)))
      (Engine.process e image mask).2
  /-- The executor takes a frame in. -/
  | importFrame (frame : Frame) :
    Asked e (.importFrame frame) ((Engine.importFrame e frame).1.map .imported)
      (Engine.importFrame e frame).2
  /-- The executor brings a frame out. -/
  | exportFrame (frame : Resource) :
    Asked e (.exportFrame frame) ((Engine.exportFrame e frame).1.map .exported)
      (Engine.exportFrame e frame).2

/-- The node with the frame of a call counted, if it was taken. -/
def record (n : Node ε) : Request ε → Except Fault Answer → Node ε
  | .process time _ _, .ok (.output packet) =>
    { n with last := some time, emitted := n.emitted + packet.toList.length }
  | _, _ => n

/-- A call, its answer, and the node after it. -/
inductive Step (create : Residency → Settings → Except Fault ε) (n : Node ε) :
    Request ε → Except Fault Answer → Node ε → Prop where
  /-- A check fails, or there is no executor to be had. Nothing is changed. -/
  | refused {request : Request ε} {fault : Fault} (notClose : request ≠ .close)
    (truthful : Truthful create n fault) : Step create n request (.error fault) n
  /-- The node is opened with an executor for the memory of its streams. -/
  | opened {request : Request ε} {streams : Binding} {e : ε}
    (binds : request.streams? = some streams) (fresh : n.stage = .uninitialized)
    (valid : streams.residency = .ok (Engine.residency e))
    (supplied : request.Supplies create e) :
    Step create n request (.ok .done) { n with engine := some e, stage := .ready }
  /-- The call is passed on to the executor. -/
  | passed {request : Request ε} {answer : Except Fault Answer} {e e' : ε}
    (ready : n.stage = .ready) (engine : n.engine = some e)
    (inTime : ∀ time last, request.time? = some time → n.last = some last → last < time)
    (asked : Asked e request answer e')
    (inMemory : ∀ r ∈ request.frames, r.residency = Engine.residency e) :
    Step create n request answer ((n.work e').record request answer)
  /-- The node is closed, and its executor is shut down if there is one. -/
  | closed {result : Except Fault Unit} {retired : Option ε}
    (fault : ∀ fault, result = .error fault → Foreign create fault)
    (released : retired = (n.engine.map fun e => (Engine.shutdown e).2).or n.retired) :
    Step create n .close (result.map fun _ => .done)
      { n with stage := .closed, engine := none, retired := retired }

/-! ### Every call is a step -/

omit [Engine ε] in
theorem checkStage_cases (n : Node ε) (expected : NodeStage) (call : NodeCall) :
    (n.stage = expected ∧ n.checkStage expected call = .ok ()) ∨
      n.checkStage expected call = .error (.node (.wrongStage call n.stage)) := by
  by_cases h : n.stage = expected
  · exact .inl ⟨h, if_pos h⟩
  · exact .inr (if_neg h)

omit [Engine ε] in
theorem readyEngine_cases (n : Node ε) (call : NodeCall) :
    (∃ e, n.stage = .ready ∧ n.engine = some e ∧ n.readyEngine call = .ok e) ∨
    (n.stage = .ready ∧ n.engine = none ∧ n.readyEngine call = .error (.node (.noEngine call))) ∨
      n.readyEngine call = .error (.node (.wrongStage call n.stage)) := by
  unfold readyEngine
  obtain ⟨ready, check⟩ | check := n.checkStage_cases .ready call
  · cases engine : n.engine with
    | none => exact .inr (.inl ⟨ready, rfl, by rw [check]; rfl⟩)
    | some e => exact .inl ⟨e, ready, rfl, by rw [check]; rfl⟩
  · exact .inr (.inr (by rw [check]; rfl))

theorem checkTime_cases (last : Option Timestamp) (time : Timestamp) :
    ((∀ last' ∈ last, last' < time) ∧ checkTime last time = .ok ()) ∨
      ∃ last', last = some last' ∧ time ≤ last' ∧
        checkTime last time = .error (.node (.notAfter time last')) := by
  cases last with
  | none => exact .inl ⟨by rintro _ ⟨⟩, rfl⟩
  | some last =>
    by_cases h : time ≤ last
    · exact .inr ⟨last, rfl, h, if_pos h⟩
    · refine .inl ⟨?_, if_neg h⟩
      rintro _ ⟨⟩
      exact Int.not_le.1 h

theorem checkTime_ok {last : Option Timestamp} {time : Timestamp}
    (inTime : ∀ last' ∈ last, last' < time) : checkTime last time = .ok () := by
  obtain ⟨-, h⟩ | ⟨last', kept, late, -⟩ := checkTime_cases last time
  · exact h
  · exact absurd late (Int.not_le.2 (inTime last' kept))

theorem checkMemory_cases (expected : Residency) (role : FrameRole) (r : Resource) :
    checkMemory expected role r = .ok () ∨
      checkMemory expected role r = .error (.node (.wrongMemory role r.residency expected)) := by
  by_cases h : r.residency = expected
  · exact .inl (if_pos h)
  · exact .inr (if_neg h)

theorem checkFrames_cases (expected : Residency) (image : Resource) (mask : Option Resource) :
    checkFrames expected image mask = .ok () ∨ ∃ role found,
      checkFrames expected image mask = .error (.node (.wrongMemory role found expected)) := by
  unfold checkFrames
  obtain h | h := checkMemory_cases expected .image image
  · rw [h]
    cases mask with
    | none => exact .inl rfl
    | some mask =>
      obtain h | h := checkMemory_cases expected .mask mask
      · exact .inl h
      · exact .inr ⟨_, _, h⟩
  · rw [h]
    exact .inr ⟨_, _, rfl⟩

theorem residency_of_checkFrames {expected : Residency} {image : Resource}
    {mask : Option Resource} (h : checkFrames expected image mask = .ok ()) :
    ∀ r ∈ image :: mask.toList, r.residency = expected := by
  unfold checkFrames checkMemory at h
  by_cases first : image.residency = expected
  · rw [if_pos first] at h
    intro r member
    obtain rfl | member := List.mem_cons.1 member
    · exact first
    · obtain rfl := Option.mem_toList.1 member
      by_contra second
      exact nomatch (show Except.error _ = Except.ok () from (if_neg second).symm.trans h)
  · rw [if_neg first] at h
    cases h

theorem checkEngine_cases (residency : Residency) (e : ε) :
    (Engine.residency e = residency ∧ checkEngine residency e = .ok ()) ∨
      checkEngine residency e = .error (.node (.wrongEngine residency (Engine.residency e))) := by
  by_cases h : Engine.residency e = residency
  · exact .inl ⟨h, if_pos h⟩
  · exact .inr (if_neg h)

theorem streams_cases (streams : Binding) :
    (∃ r, streams.residency = .ok r ∧ streams.residency.mapError Fault.binding = .ok r) ∨
      ∃ cause, streams.residency.mapError Fault.binding = .error (.binding cause) := by
  cases streams.residency with
  | error cause => exact .inr ⟨cause, rfl⟩
  | ok r => exact .inl ⟨r, rfl, rfl⟩

section

variable {create : Residency → Settings → Except Fault ε}

/-- Opening is refused by a check of the node, or the node is open. -/
theorem openWith_cases (n : Node ε) (streams : Binding) (e : ε) :
    (∃ fault, Truthful create n fault ∧ n.openWith streams e = (.error fault, n)) ∨
    (n.stage = .uninitialized ∧ streams.residency = .ok (Engine.residency e) ∧
      n.openWith streams e = (.ok (), { n with engine := some e, stage := .ready })) := by
  unfold openWith
  obtain ⟨fresh, check⟩ | check := n.checkStage_cases .uninitialized .opening
  · obtain ⟨r, valid, h⟩ | ⟨cause, h⟩ := streams_cases streams
    · obtain ⟨rfl, memory⟩ | memory := checkEngine_cases r e
      · exact .inr ⟨fresh, valid, by simp only [attempt, check, h, memory]; rfl⟩
      · exact .inl ⟨.node (.wrongEngine r (Engine.residency e)), by rintro _ ⟨⟩,
          by simp only [attempt, check, h, memory]⟩
    · exact .inl ⟨.binding cause, by rintro _ ⟨⟩, by simp only [attempt, check, h]⟩
  · rw [check]
    exact .inl ⟨.node (.wrongStage .opening n.stage), by rintro _ ⟨⟩, rfl⟩

/-- The fault of a configuration that no executor can be made for. -/
theorem engineFor_error {config : NodeConfig} {fault : Fault}
    (h : engineFor create config = .error fault) (n : Node ε) : Truthful create n fault := by
  unfold engineFor at h
  cases valid : config.binding.residency with
  | error cause =>
    rw [valid] at h
    cases h
    rintro _ ⟨⟩
  | ok residency =>
    cases chosen : Settings.ofOptions config.options with
    | error cause =>
      rw [valid, chosen] at h
      cases h
      rintro _ ⟨⟩
    | ok settings =>
      rw [valid, chosen] at h
      exact fun _ _ => .inl (.create residency settings h)

/-- Opening by a configuration is refused, or the node is open with the executor made. -/
theorem openBy_cases (n : Node ε) (config : NodeConfig) :
    (∃ fault, Truthful create n fault ∧ openBy create n config = (.error fault, n)) ∨
    ∃ e, engineFor create config = .ok e ∧ n.stage = .uninitialized ∧
      config.binding.residency = .ok (Engine.residency e) ∧
      openBy create n config = (.ok (), { n with engine := some e, stage := .ready }) := by
  unfold openBy
  obtain ⟨-, check⟩ | check := n.checkStage_cases .uninitialized .opening
  · rw [check]
    cases made : engineFor create config with
    | error fault => exact .inl ⟨fault, engineFor_error made n, rfl⟩
    | ok e =>
      obtain ⟨fault, truthful, h⟩ | ⟨fresh, valid, h⟩ := n.openWith_cases config.binding e
      · exact .inl ⟨fault, truthful, h⟩
      · exact .inr ⟨e, rfl, fresh, valid, h⟩
  · rw [check]
    exact .inl ⟨.node (.wrongStage .opening n.stage), by rintro _ ⟨⟩, rfl⟩

theorem attempt_readyEngine {α : Type} (n : Node ε) (call : NodeCall)
    (next : ε → Except Fault α × Node ε) :
    (∃ fault, Truthful create n fault ∧
      n.attempt (n.readyEngine call) next = (.error fault, n)) ∨
    ∃ e, n.stage = .ready ∧ n.engine = some e ∧
      n.attempt (n.readyEngine call) next = next e := by
  obtain ⟨e, ready, engine, h⟩ | ⟨ready, engine, h⟩ | h := n.readyEngine_cases call
  · exact .inr ⟨e, ready, engine, by rw [h]; rfl⟩
  · exact .inl ⟨.node (.noEngine call), fun _ _ => .inr ⟨ready, engine⟩, by rw [h]; rfl⟩
  · exact .inl ⟨.node (.wrongStage call n.stage), by rintro _ ⟨⟩, by rw [h]; rfl⟩

/-- Recoloring is refused by a check of the node, or it passes all of them. -/
theorem process_cases (n : Node ε) (time : Timestamp) (image : Resource)
    (mask : Option Resource) :
    (∃ fault, Truthful create n fault ∧ n.process time image mask = (.error fault, n)) ∨
    ∃ e, n.stage = .ready ∧ n.engine = some e ∧ checkTime n.last time = .ok () ∧
      checkFrames (Engine.residency e) image mask = .ok () := by
  unfold process
  obtain ⟨-, h⟩ | h := n.checkStage_cases .ready .processing
  · rw [h]
    obtain ⟨-, inTime⟩ | ⟨last, -, -, h⟩ := checkTime_cases n.last time
    · rw [inTime]
      obtain ⟨e, ready, engine, h⟩ | ⟨ready, engine, h⟩ | h := n.readyEngine_cases .processing
      · rw [h]
        obtain frames | ⟨role, found, h⟩ := checkFrames_cases (Engine.residency e) image mask
        · exact .inr ⟨e, ready, engine, rfl, frames⟩
        · exact .inl ⟨.node (.wrongMemory role found (Engine.residency e)), by rintro _ ⟨⟩,
            by simp only [attempt, h]⟩
      · rw [h]
        exact .inl ⟨.node (.noEngine .processing), fun _ _ => .inr ⟨ready, engine⟩, rfl⟩
      · rw [h]
        exact .inl ⟨.node (.wrongStage .processing n.stage), by rintro _ ⟨⟩, rfl⟩
    · rw [h]
      exact .inl ⟨.node (.notAfter time last), by rintro _ ⟨⟩, rfl⟩
  · rw [h]
    exact .inl ⟨.node (.wrongStage .processing n.stage), by rintro _ ⟨⟩, rfl⟩

end

/-- The answer to a call that passed all checks, and the node after it. -/
theorem process_passed {n : Node ε} {e : ε} {time : Timestamp} {image : Resource}
    {mask : Option Resource} (ready : n.stage = .ready) (engine : n.engine = some e)
    (inTime : checkTime n.last time = .ok ())
    (frames : checkFrames (Engine.residency e) image mask = .ok ()) :
    answer .output (n.process time image mask) =
      (let result := (Engine.process e image mask).1.map fun out => .output (out.map (⟨time, ·⟩))
      (result, (n.work (Engine.process e image mask).2).record (.process time image mask) result)) := by
  have stage : n.checkStage .ready .processing = .ok () := if_pos ready
  have passed : n.readyEngine .processing = .ok e := by
    simp only [readyEngine, checkStage, if_pos ready, engine]
    rfl
  simp only [process, stage, inTime, passed, frames, attempt]
  generalize Engine.process e image mask = result
  obtain ⟨fault | out, e'⟩ := result
  · rfl
  · cases out with
    | none => rfl
    | some out => rfl

/-- **Every call is a step.** -/
theorem handle_step (create : Residency → Settings → Except Fault ε) (n : Node ε)
    (request : Request ε) :
    Step create n request (n.handle create request).1 (n.handle create request).2 := by
  cases request with
  | openBy config =>
    rw [handle, answer]
    obtain ⟨fault, truthful, h⟩ | ⟨e, made, fresh, valid, h⟩ := n.openBy_cases config
    · rw [h]
      exact .refused nofun truthful
    · rw [h]
      exact .opened rfl fresh valid (.openBy made)
  | openWith streams e =>
    rw [handle, answer]
    obtain ⟨fault, truthful, h⟩ | ⟨fresh, valid, h⟩ := n.openWith_cases streams e
    · rw [h]
      exact .refused nofun truthful
    · rw [h]
      exact .opened rfl fresh valid (.openWith streams e)
  | importFrame frame =>
    rw [handle, answer, importFrame]
    obtain ⟨fault, truthful, h⟩ | ⟨e, ready, engine, h⟩ := n.attempt_readyEngine .importing
      fun e => Engine.lift n.work (Engine.importFrame e frame)
    · rw [h]
      exact .refused nofun truthful
    · rw [h]
      exact .passed ready engine (by rintro _ _ ⟨⟩) (.importFrame frame) nofun
  | process time image mask =>
    obtain ⟨fault, truthful, h⟩ | ⟨e, ready, engine, inTime, frames⟩ :=
      n.process_cases time image mask
    · rw [handle, h]
      exact .refused nofun truthful
    · rw [handle, process_passed ready engine inTime frames]
      refine .passed ready engine ?_ (.process time image mask) (residency_of_checkFrames frames)
      rintro _ last ⟨⟩ some
      obtain ⟨after, -⟩ | ⟨_, -, -, late⟩ := checkTime_cases n.last time
      · exact after last some
      · rw [inTime] at late
        cases late
  | exportFrame frame =>
    rw [handle, answer, exportFrame]
    obtain ⟨fault, truthful, h⟩ | ⟨e, ready, engine, h⟩ := n.attempt_readyEngine .exporting
      fun e => Engine.lift n.work (Engine.exportFrame e frame)
    · rw [h]
      exact .refused nofun truthful
    · rw [h]
      exact .passed ready engine (by rintro _ _ ⟨⟩) (.exportFrame frame) nofun
  | close =>
    simp only [handle, answer, close]
    cases engine : n.engine with
    | none => exact .closed (by rintro _ ⟨⟩) (by rw [engine]; rfl)
    | some e => exact .closed (fun fault h => .shutdown e h) (by rw [engine]; rfl)

/-! ### Runs -/

/-- A call of a run. -/
structure Event (ε : Type) where
  /-- What is asked for. -/
  request : Request ε
  /-- The answer. -/
  answer : Except Fault Answer
  /-- The node after the call. -/
  after : Node ε

namespace Event

/-- The time of a frame that was taken, with an output or without. -/
def time? : Event ε → Option Timestamp
  | ⟨request, .ok _, _⟩ => request.time?
  | ⟨_, .error _, _⟩ => none

/-- The output of a call. -/
def packet? : Event ε → Option (Packet Resource)
  | ⟨_, .ok (.output packet), _⟩ => packet
  | _ => none

/-- The streams that a call bound the node to. -/
def streams? : Event ε → Option Binding
  | ⟨request, .ok _, _⟩ => request.streams?
  | ⟨_, .error _, _⟩ => none

end Event

/-- A run, call by call. -/
def trace (create : Residency → Settings → Except Fault ε) (n : Node ε) :
    List (Request ε) → List (Event ε)
  | [] => []
  | request :: rest =>
    let (answer, after) := n.handle create request
    ⟨request, answer, after⟩ :: trace create after rest

theorem trace_cons (create : Residency → Settings → Except Fault ε) (n : Node ε)
    (request : Request ε) (rest : List (Request ε)) :
    trace create n (request :: rest) =
      ⟨request, (n.handle create request).1, (n.handle create request).2⟩ ::
        trace create (n.handle create request).2 rest := rfl

/-- Executors for frames in host memory, whatever is asked for. -/
def cpuOnly (_ : Residency) (settings : Settings) : Except Fault CpuEngine := .ok { settings }

/-- A node is opened, recolors a frame, is given another one of the same time, and is
closed. -/
def shortRun : List (Request CpuEngine) :=
  [.openWith (.preset .cpu) { settings := .ofColor ⟨12, 200, 99⟩ .red },
    .process { micros := 5 } (.host CpuEngine.column) (some (.host CpuEngine.upperMask)),
    .process { micros := 5 } (.host CpuEngine.column) none,
    .close]

end Node

end Tint
