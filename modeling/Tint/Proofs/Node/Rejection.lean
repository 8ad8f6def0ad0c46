import Tint.Proofs.Node.Calls

/-!
# Failed calls leave no trace

A call that fails, closing apart, leaves the node as it is, if the executor leaves itself as
it is (`handle_error`). So a run and the run without its failed calls show the same to the
calls that are left (`trace_filter`). In particular a time is not used up by a frame that is
refused, and a node that could not be opened can still be opened.
-/

namespace Tint

namespace Node

variable {ε : Type} [Engine ε]

/-! ### One call -/

theorem Asked.eq_of_error (clean : Engine.FailsClean ε) {e e' : ε} {request : Request ε}
    {answer : Except Fault Answer} (h : Asked e request answer e') {fault : Fault}
    (failed : answer = .error fault) : e' = e := by
  cases h with
  | process time image mask => exact clean.process (eq_error_of_map failed)
  | importFrame frame => exact clean.importFrame (eq_error_of_map failed)
  | exportFrame frame => exact clean.exportFrame (eq_error_of_map failed)

/-- **A failed call leaves the node as it is**, closing apart. -/
theorem handle_error (clean : Engine.FailsClean ε)
    {create : Residency → Settings → Except Fault ε} {n : Node ε} {request : Request ε}
    {fault : Fault} (notClose : request ≠ .close)
    (failed : (n.handle create request).1 = .error fault) : (n.handle create request).2 = n := by
  generalize ha : (n.handle create request).1 = answer at failed
  generalize hn : (n.handle create request).2 = n'
  have step := handle_step create n request
  rw [ha, hn] at step
  cases step with
  | refused => rfl
  | opened => cases failed
  | @passed _ _ e e' ready engine inTime asked =>
    obtain rfl : e' = e := asked.eq_of_error clean failed
    have same : n.work e' = n := by rw [work, ← engine]
    rw [failed, same]
    cases request <;> rfl
  | closed => exact absurd rfl notClose

theorem checkFrames_ok {expected : Residency} {image : Resource} {mask : Option Resource}
    (image_eq : image.residency = expected) (mask_eq : ∀ m ∈ mask, m.residency = expected) :
    checkFrames expected image mask = .ok () := by
  have first : checkMemory expected .image image = .ok () := if_pos image_eq
  unfold checkFrames
  rw [first]
  cases mask with
  | none => rfl
  | some m => exact if_pos (mask_eq m rfl)

theorem process_ok {n : Node ε} {e : ε} {time : Timestamp} {image : Resource}
    {mask : Option Resource} {out : Option Resource} (ready : n.stage = .ready)
    (engine : n.engine = some e) (inTime : ∀ last ∈ n.last, last < time)
    (image_eq : image.residency = Engine.residency e)
    (mask_eq : ∀ m ∈ mask, m.residency = Engine.residency e)
    (taken : (Engine.process e image mask).1 = .ok out) :
    (n.process time image mask).1 = .ok (out.map (⟨time, ·⟩)) := by
  have passed := congrArg Prod.fst
    (process_passed ready engine (checkTime_ok inTime) (checkFrames_ok image_eq mask_eq))
  rw [answer, taken] at passed
  cases given : (n.process time image mask).1 with
  | error fault =>
    rw [given] at passed
    cases passed
  | ok packet =>
    rw [given] at passed
    cases passed
    rfl

theorem openWith_ok {n : Node ε} {streams : Binding} {e : ε} (fresh : n.stage = .uninitialized)
    (valid : streams.residency = .ok (Engine.residency e)) : (n.openWith streams e).1 = .ok () := by
  have stage : n.checkStage .uninitialized .opening = .ok () := if_pos fresh
  have memory : checkEngine (Engine.residency e) e = .ok () := if_pos rfl
  obtain ⟨r, same, h⟩ | ⟨cause, h⟩ := streams_cases streams
  · obtain rfl : Engine.residency e = r := Except.ok.inj (valid.symm.trans same)
    simp only [openWith, attempt, stage, h, memory]
  · rw [valid] at h
    cases h

/-! ### Runs -/

/-- The call counts: it was answered without a fault, or it closed the node. -/
def Event.counts : Event ε → Bool
  | ⟨.close, _, _⟩ => true
  | ⟨_, .ok _, _⟩ => true
  | ⟨_, .error _, _⟩ => false

omit [Engine ε] in
theorem Event.of_not_counts {event : Event ε} (h : ¬ event.counts) :
    event.request ≠ .close ∧ ∃ fault, event.answer = .error fault := by
  obtain ⟨request, fault | a, after⟩ := event
  · refine ⟨?_, fault, rfl⟩
    rintro rfl
    exact h rfl
  · refine absurd ?_ h
    cases request <;> rfl

/-- **A run without its failed calls is what is left of the run.** -/
theorem trace_filter (clean : Engine.FailsClean ε)
    (create : Residency → Settings → Except Fault ε) (n : Node ε) (requests : List (Request ε)) :
    trace create n (((trace create n requests).filter Event.counts).map Event.request) =
      (trace create n requests).filter Event.counts := by
  induction requests generalizing n with
  | nil => rfl
  | cons request rest ih =>
    rw [trace_cons]
    by_cases counts : Event.counts
        ⟨request, (n.handle create request).1, (n.handle create request).2⟩
    · rw [List.filter_cons_of_pos counts, List.map_cons, trace_cons, ih]
    · obtain ⟨notClose, fault, failed⟩ := Event.of_not_counts counts
      have same := handle_error clean notClose failed
      rw [List.filter_cons_of_neg counts, same, ih]

/-- **Failed calls leave no trace.** Deleting them changes no other answer and not the node
after any other call. Each leaves the node as it is: a time is not used up by a frame that is
refused, and a node that could not be opened can still be opened. -/
theorem failed_calls_vanish (clean : Engine.FailsClean ε)
    (create : Residency → Settings → Except Fault ε) :
    (∀ requests : List (Request ε),
      trace create fresh (((trace create fresh requests).filter Event.counts).map Event.request) =
        (trace create fresh requests).filter Event.counts) ∧
    (∀ (n : Node ε) (request : Request ε) fault, request ≠ .close →
      (n.handle create request).1 = .error fault → (n.handle create request).2 = n) ∧
    (∀ (n : Node ε) time image mask fault, (n.process time image mask).1 = .error fault →
      (n.process time image mask).2.last = n.last ∧
      ∀ e image' mask' out, n.stage = .ready → n.engine = some e → (∀ last ∈ n.last, last < time) →
        image'.residency = Engine.residency e →
        (∀ m ∈ mask', m.residency = Engine.residency e) →
        (Engine.process e image' mask').1 = .ok out →
        ((n.process time image mask).2.process time image' mask').1 =
          .ok (out.map (⟨time, ·⟩))) ∧
    ∀ (n : Node ε) (request : Request ε) fault, n.stage = .uninitialized →
      request.streams?.isSome → (n.handle create request).1 = .error fault →
      ∀ streams e, streams.residency = .ok (Engine.residency e) →
        ((n.handle create request).2.openWith streams e).1 = .ok () := by
  refine ⟨trace_filter clean create fresh, fun n request fault => handle_error clean, ?_, ?_⟩
  · intro n time image mask fault failed
    have refused : (n.handle create (.process time image mask)).1 = .error fault := by
      rw [handle, answer, failed]
      rfl
    have same : (n.handle create (.process time image mask)).2 = n :=
      handle_error clean (by rintro ⟨⟩) refused
    rw [handle, answer] at same
    rw [same]
    exact ⟨rfl, fun e image' mask' out => process_ok⟩
  · intro n request fault fresh opening failed streams e valid
    have same : (n.handle create request).2 = n := by
      refine handle_error clean ?_ failed
      rintro rfl
      cases opening
    rw [same]
    exact openWith_ok fresh valid

/-- The call that comes too late is deleted from a run. -/
theorem failed_calls_vanish_short :
    trace cpuOnly fresh (shortRun.eraseIdx 2) = (trace cpuOnly fresh shortRun).eraseIdx 2 := by
  obtain ⟨vanish, -⟩ := failed_calls_vanish CpuEngine.failsClean cpuOnly
  exact vanish shortRun

end Node

end Tint
