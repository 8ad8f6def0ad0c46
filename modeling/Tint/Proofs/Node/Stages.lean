import Tint.Proofs.Node.Rejection

/-!
# What a node does at each stage

A call is for one stage, closing apart. At any other stage it is refused and the node stays as
it is (`handle_wrongStage`). At its own stage a call on an open node hands over to the
executor: there is one equation for each call, so that what a node does follows from what its
executor does. A closed node answers nothing but another close (`handle_closed`).
-/

namespace Tint

/-- The stage that a call is for. -/
def NodeCall.stage : NodeCall → NodeStage
  | opening => .uninitialized
  | processing | importing | exporting => .ready

namespace Node

/-- What a request asks of the node, if it is for one stage only. -/
def Request.call? {ε : Type} : Request ε → Option NodeCall
  | .openBy _ | .openWith _ _ => some .opening
  | .importFrame _ => some .importing
  | .process _ _ _ => some .processing
  | .exportFrame _ => some .exporting
  | .close => none

variable {ε : Type} [Engine ε] {create : Residency → Settings → Except Fault ε} {n : Node ε} {e : ε}

/-! ### The wrong stage -/

/-- **A call at the wrong stage is refused**, and the node stays as it is. -/
theorem handle_wrongStage {request : Request ε} {call : NodeCall}
    (needs : request.call? = some call) (wrong : n.stage ≠ call.stage) :
    n.handle create request = (.error (.node (.wrongStage call n.stage)), n) := by
  have check : n.checkStage call.stage call = .error (.node (.wrongStage call n.stage)) :=
    if_neg wrong
  cases request with
  | close => cases needs
  | openBy config | openWith streams e =>
    cases needs
    simp only [NodeCall.stage] at check
    simp only [handle, answer, openBy, openWith, attempt, check]
    rfl
  | importFrame frame | exportFrame frame =>
    cases needs
    simp only [NodeCall.stage] at check
    simp only [handle, answer, importFrame, exportFrame, readyEngine, check]
    rfl
  | process time image mask =>
    cases needs
    simp only [NodeCall.stage] at check
    simp only [handle, answer, process, attempt, check]
    rfl

/-! ### Closing -/

theorem handle_close_none (idle : n.engine = none) :
    n.handle create .close = (.ok .done, { n with stage := .closed }) := by
  obtain ⟨stage, engine, last, emitted, retired⟩ := n
  cases idle
  rfl

theorem handle_close_some (engine : n.engine = some e) :
    n.handle create .close = ((Engine.shutdown e).1.map fun _ => .done,
      { n with stage := .closed, engine := none, retired := some (Engine.shutdown e).2 }) := by
  simp only [handle, answer, close, engine]
  rfl

/-- **A closed node stays as it is.** It can be closed again, and refuses everything else. -/
theorem handle_closed (create : Residency → Settings → Except Fault ε)
    (closed : n.stage = .closed) (idle : n.engine = none) (request : Request ε) :
    (n.handle create request).2 = n ∧
      (request = .close → (n.handle create request).1 = .ok .done) ∧
      (request ≠ .close → ∃ fault, (n.handle create request).1 = .error fault ∧
        fault.kind = .contractViolation) := by
  cases needs : request.call? with
  | none =>
    obtain rfl : request = .close := by cases request <;> first | rfl | cases needs
    rw [handle_close_none idle]
    refine ⟨?_, fun _ => rfl, fun h => absurd rfl h⟩
    rw [← closed]
  | some call =>
    have wrong : n.stage ≠ call.stage := by
      rw [closed]
      cases call <;> nofun
    rw [handle_wrongStage needs wrong]
    refine ⟨rfl, ?_, fun _ => ⟨_, rfl, rfl⟩⟩
    rintro rfl
    cases needs

/-- The calls on a closed node. -/
theorem trace_closed (create : Residency → Settings → Except Fault ε) (closed : n.stage = .closed)
    (idle : n.engine = none) (requests : List (Request ε)) :
    ∀ event ∈ trace create n requests, event.after = n ∧
      (event.request = .close → event.answer = .ok .done) ∧
      (event.request ≠ .close → ∃ fault, event.answer = .error fault ∧
        fault.kind = .contractViolation) := by
  induction requests with
  | nil => exact fun _ h => absurd h List.not_mem_nil
  | cons request rest ih =>
    have first := handle_closed create closed idle request
    rw [trace_cons, first.1]
    intro event member
    obtain rfl | member := List.mem_cons.1 member
    · exact ⟨rfl, first.2⟩
    · exact ih event member

/-! ### An open node -/

omit [Engine ε] in
theorem readyEngine_ready (ready : n.stage = .ready) (engine : n.engine = some e)
    (call : NodeCall) : n.readyEngine call = .ok e := by
  simp only [readyEngine, checkStage, if_pos ready, engine]
  rfl

theorem handle_importFrame (ready : n.stage = .ready) (engine : n.engine = some e)
    (frame : Frame) :
    n.handle create (.importFrame frame) =
      ((Engine.importFrame e frame).1.map .imported, n.work (Engine.importFrame e frame).2) := by
  rw [handle, answer, importFrame, readyEngine_ready ready engine]
  rfl

theorem handle_exportFrame (ready : n.stage = .ready) (engine : n.engine = some e)
    (frame : Resource) :
    n.handle create (.exportFrame frame) =
      ((Engine.exportFrame e frame).1.map .exported, n.work (Engine.exportFrame e frame).2) := by
  rw [handle, answer, exportFrame, readyEngine_ready ready engine]
  rfl

theorem handle_process_late (ready : n.stage = .ready) {time last : Timestamp}
    (kept : n.last = some last) (late : time ≤ last) (image : Resource) (mask : Option Resource) :
    n.handle create (.process time image mask) = (.error (.node (.notAfter time last)), n) := by
  have stage : n.checkStage .ready .processing = .ok () := if_pos ready
  have refused : checkTime (some last) time = .error (.node (.notAfter time last)) := if_pos late
  simp only [handle, answer, process, attempt, stage, kept, refused]
  rfl

/-- Recoloring a frame that comes in time is left to the executor. -/
theorem handle_process (ready : n.stage = .ready) (engine : n.engine = some e) {time : Timestamp}
    (inTime : ∀ last ∈ n.last, last < time) {image : Resource} {mask : Option Resource}
    (image_eq : image.residency = Engine.residency e)
    (mask_eq : ∀ m ∈ mask, m.residency = Engine.residency e) :
    n.handle create (.process time image mask) =
      (let result := (Engine.process e image mask).1.map fun out => .output (out.map (⟨time, ·⟩))
      (result, (n.work (Engine.process e image mask).2).record (.process time image mask) result)) :=
  process_passed ready engine (checkTime_ok inTime) (checkFrames_ok image_eq mask_eq)

end Node

end Tint
