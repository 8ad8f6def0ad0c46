import Tint.Proofs.Node.Lifecycle
import Tint.Proofs.Node.Recorded

/-!
# What reaches an executor

A node keeps the order of the calls on its executor, whatever the executor answers: no call
before the node is open, frames in the executor's memory only and at increasing times, one
shutdown at most and nothing after it. The calls are read off the record of an executor on
record (`Recorder`). One call of the node adds at most one entry (`Sound.handle`), and a run is
followed from its first call on: what is still to come cannot reach an executor that was shut
down, nor at a time that has passed (`visits_inTime`).

## The model

* `Visit` is a call on an executor, with the call of the node that it belongs to and the node
  before that.
* `visits` are the visits of a run: for each call of the node, what is on record after it and
  was not before.
* `Reaches` says which call on its executor a call of the node may make.
-/

namespace Tint

/-- The call shuts the executor down. -/
def Contact.isShutdown : Contact → Bool
  | shutdown _ => true
  | _ => false

/-- Executors that are on record from the start. -/
def Recorder.making {ε : Type} (create : Residency → Settings → Except Fault ε) (r : Residency)
    (s : Settings) : Except Fault (Recorder ε) :=
  (create r s).map Recorder.start

namespace Node

variable {ε : Type} [Engine ε]

/-! ### Visits -/

/-- What is on record of a node's executor, at work or shut down. -/
def contacts (n : Node (Recorder ε)) : List Contact :=
  ((n.engine.or n.retired).map Recorder.contacts).getD []

/-- A call on an executor, as part of a call of the node. -/
structure Visit (ε : Type) where
  /-- The node before the call. -/
  before : Node (Recorder ε)
  /-- What the node is asked for. -/
  request : Request (Recorder ε)
  /-- What the executor is asked for, and its answer. -/
  contact : Contact

/-- The calls on executors in a run. -/
def visits (create : Residency → Settings → Except Fault (Recorder ε)) (n : Node (Recorder ε)) :
    List (Request (Recorder ε)) → List (Visit ε)
  | [] => []
  | request :: rest =>
    let after := (n.handle create request).2
    ((after.contacts.drop n.contacts.length).map fun contact => ⟨n, request, contact⟩) ++
      visits create after rest

/-- The call that a node makes on its executor as part of a call: the answer is the executor's,
and frames are in its memory. -/
inductive Reaches (e : Recorder ε) : Request (Recorder ε) → Contact → Prop where
  /-- Frames are passed on to be recolored. -/
  | process (time : Timestamp) {image : Resource} {mask : Option Resource}
    (image_eq : image.residency = Engine.residency e)
    (mask_eq : ∀ m ∈ mask, m.residency = Engine.residency e) :
    Reaches e (.process time image mask)
      (.process image mask (Engine.process e.engine image mask).1)
  /-- A frame is passed on to be taken in. -/
  | importFrame (frame : Frame) :
    Reaches e (.importFrame frame) (.importFrame frame (Engine.importFrame e.engine frame).1)
  /-- A frame is passed on to be brought out. -/
  | exportFrame (frame : Resource) :
    Reaches e (.exportFrame frame) (.exportFrame frame (Engine.exportFrame e.engine frame).1)
  /-- The executor is shut down. -/
  | shutdown : Reaches e .close (.shutdown (Engine.shutdown e.engine).1)

namespace Visit

/-- The node is open, and its executor gets what it may get. -/
def Proper (v : Visit ε) : Prop :=
  v.before.stage = .ready ∧ ∃ e, v.before.engine = some e ∧ Reaches e v.request v.contact

/-- One call on an executor may come before another. Nothing comes after a shutdown, and a frame
that was taken has an earlier time. -/
def Precedes (first later : Visit ε) : Prop :=
  first.contact.isShutdown = false ∧
    ∀ image mask out time time', first.contact = .process image mask (.ok out) →
      first.request.time? = some time → later.request.time? = some time' → time < time'

end Visit

/-! ### One call -/

/-- The node has an executor exactly while it is open, and none is retired before it closes. -/
structure Sound (n : Node ε) : Prop where
  /-- There is an executor at work exactly while the node is open. -/
  engine_iff : n.engine.isSome ↔ n.stage = .ready
  /-- No executor was shut down before the node closes. -/
  retired : n.stage ≠ .closed → n.retired = none

omit [Engine ε] in
theorem Sound.fresh : Sound (fresh : Node ε) := ⟨⟨nofun, nofun⟩, fun _ => rfl⟩

omit [Engine ε] in
theorem Sound.idle {n : Node ε} (sound : n.Sound) (h : n.stage ≠ .ready) : n.engine = none := by
  rw [← Option.not_isSome_iff_eq_none, sound.engine_iff]
  exact h

omit [Engine ε] in
theorem record_retired (n : Node ε) (request : Request ε) (answer : Except Fault Answer) :
    (n.record request answer).retired = n.retired := by
  unfold record
  split <;> rfl

/-- A call keeps the node sound. -/
theorem Sound.handle {n : Node ε} (sound : n.Sound)
    (create : Residency → Settings → Except Fault ε) (request : Request ε) :
    (n.handle create request).2.Sound := by
  generalize ha : (n.handle create request).1 = answer
  generalize hn : (n.handle create request).2 = n'
  have step := handle_step create n request
  rw [ha, hn] at step
  cases step with
  | refused => exact sound
  | opened _ fresh =>
    refine ⟨⟨fun _ => rfl, fun _ => rfl⟩, fun _ => sound.retired ?_⟩
    rw [fresh]
    nofun
  | passed ready =>
    constructor
    · rw [record_engine, record_stage]
      exact ⟨fun _ => ready, fun _ => rfl⟩
    · intro notClosed
      rw [record_stage] at notClosed
      rw [record_retired]
      exact sound.retired notClosed
  | closed => exact ⟨⟨nofun, nofun⟩, fun h => absurd rfl h⟩

theorem handle_last (create : Residency → Settings → Except Fault ε) (n : Node ε)
    (request : Request ε) :
    (n.handle create request).2.last = n.last ∨ ∃ time, request.time? = some time ∧
      (n.handle create request).2.last = some time ∧ ∀ last ∈ n.last, last < time := by
  generalize ha : (n.handle create request).1 = answer
  generalize hn : (n.handle create request).2 = n'
  have step := handle_step create n request
  rw [ha, hn] at step
  cases step with
  | refused | opened | closed => exact .inl rfl
  | @passed _ _ e e' ready engine inTime asked =>
    rw [asked.record_last (n.work e') n]
    cases timed : Event.time? ⟨request, answer, n⟩ with
    | none => exact .inl rfl
    | some time =>
      have named : request.time? = some time := by
        cases answer with
        | error fault => cases timed
        | ok a => exact timed
      exact .inr ⟨time, named, rfl, fun last kept => inTime time last named kept⟩

/-- What a call of the node adds to the record of its executor. -/
inductive Adds (n : Node (Recorder ε)) (request : Request (Recorder ε))
    (after : Node (Recorder ε)) : Prop where
  /-- Nothing. -/
  | nothing (same : after.contacts = n.contacts)
  /-- One entry. -/
  | entry (contact : Contact) (added : after.contacts = n.contacts ++ [contact])
    (proper : Visit.Proper ⟨n, request, contact⟩)
    (inTime : ∀ time last, request.time? = some time → n.last = some last → last < time)
    (ends : contact.isShutdown = true → after.stage = .closed)
    (taken : ∀ image mask out time, contact = .process image mask (.ok out) →
      request.time? = some time → after.last = some time)

theorem Asked.adds {e e' : Recorder ε} {request : Request (Recorder ε)}
    {answer : Except Fault Answer} (asked : Asked e request answer e')
    (inMemory : ∀ r ∈ request.frames, r.residency = Engine.residency e) :
    ∃ contact, e'.contacts = e.contacts ++ [contact] ∧ Reaches e request contact ∧
      contact.isShutdown = false ∧
      ∀ image mask out, contact = .process image mask (.ok out) → ∃ a, answer = .ok a := by
  cases asked with
  | process time image mask =>
    have image_eq := inMemory image List.mem_cons_self
    have mask_eq := fun m h => inMemory m (List.mem_cons_of_mem _ (Option.mem_toList.2 h))
    refine ⟨_, rfl, .process time image_eq mask_eq, rfl, ?_⟩
    intro image' mask' out h
    have result : (Engine.process e image mask).1 = .ok out := (Contact.process.inj h).2.2
    exact ⟨_, by rw [result]; rfl⟩
  | importFrame frame => exact ⟨_, rfl, .importFrame frame, rfl, by rintro _ _ _ ⟨⟩⟩
  | exportFrame frame => exact ⟨_, rfl, .exportFrame frame, rfl, by rintro _ _ _ ⟨⟩⟩

omit [Engine ε] in
/-- An executor that a request supplies has nothing on record. -/
theorem Request.Supplies.contacts {create : Residency → Settings → Except Fault ε}
    {request : Request ε} {e : Recorder ε}
    (h : (request.map Recorder.start).Supplies (Recorder.making create) e) : e.contacts = [] := by
  cases request with
  | openBy config =>
    obtain ⟨made⟩ := h
    have mapped : engineFor (Recorder.making create) config =
        (engineFor create config).map Recorder.start := engineFor_map (fun _ _ => rfl) config
    rw [mapped] at made
    cases plain : engineFor create config with
    | error fault =>
      rw [plain] at made
      cases made
    | ok e' =>
      rw [plain] at made
      cases made
      rfl
  | openWith streams e' =>
    obtain ⟨⟩ := h
    rfl
  | importFrame | process | exportFrame | close => nomatch h

/-- **One call of the node makes at most one call on its executor**, and one that it may make. -/
theorem Sound.adds {n : Node (Recorder ε)} (sound : n.Sound)
    (create : Residency → Settings → Except Fault ε) (request : Request ε) :
    Adds n (request.map Recorder.start)
      (n.handle (Recorder.making create) (request.map Recorder.start)).2 := by
  generalize hr : request.map Recorder.start = request'
  generalize ha : (n.handle (Recorder.making create) request').1 = answer
  generalize hn : (n.handle (Recorder.making create) request').2 = n'
  have step := handle_step (Recorder.making create) n request'
  rw [ha, hn] at step
  cases step with
  | refused => exact .nothing rfl
  | @opened _ _ e _ fresh _ supplied =>
    subst hr
    have idle : n.engine = none := sound.idle (by rw [fresh]; nofun)
    have unused : n.retired = none := sound.retired (by rw [fresh]; nofun)
    refine .nothing ?_
    rw [contacts, contacts, idle, unused]
    exact supplied.contacts
  | @passed _ _ e e' ready engine inTime asked inMemory =>
    obtain ⟨contact, added, reaches, notShutdown, taken⟩ := asked.adds inMemory
    refine .entry contact ?_ ⟨ready, e, engine, reaches⟩ inTime ?_ ?_
    · rw [contacts, contacts, record_engine, engine]
      exact added
    · rw [notShutdown]
      nofun
    · intro image mask out time h timed
      obtain ⟨a, rfl⟩ := taken image mask out h
      rw [asked.record_last (n.work e') n, Event.time?, timed]
      rfl
  | @closed _ _ _ released =>
    subst released
    cases engine : n.engine with
    | none =>
      refine .nothing ?_
      rw [contacts, contacts, engine]
      rfl
    | some e =>
      have ready : n.stage = .ready := sound.engine_iff.1 (by rw [engine]; rfl)
      refine .entry _ ?_ ⟨ready, e, engine, .shutdown⟩ ?_ (fun _ => rfl) ?_
      · rw [contacts, contacts, engine]
        rfl
      · rintro _ _ ⟨⟩
      · rintro _ _ _ _ ⟨⟩

/-! ### Runs -/

section

variable {create : Residency → Settings → Except Fault (Recorder ε)} {n : Node (Recorder ε)}

theorem visits_of_same {request : Request (Recorder ε)} {rest : List (Request (Recorder ε))}
    (same : (n.handle create request).2.contacts = n.contacts) :
    visits create n (request :: rest) = visits create (n.handle create request).2 rest := by
  simp only [visits, same, List.drop_length, List.map_nil, List.nil_append]

theorem visits_of_added {request : Request (Recorder ε)} {rest : List (Request (Recorder ε))}
    {contact : Contact} (added : (n.handle create request).2.contacts = n.contacts ++ [contact]) :
    visits create n (request :: rest) =
      ⟨n, request, contact⟩ :: visits create (n.handle create request).2 rest := by
  simp only [visits, added, List.drop_left, List.map_cons, List.map_nil, List.cons_append,
    List.nil_append]

theorem visits_closed (closed : n.stage = .closed) (idle : n.engine = none)
    (requests : List (Request (Recorder ε))) : visits create n requests = [] := by
  induction requests with
  | nil => rfl
  | cons request rest ih =>
    have stays := (handle_closed create closed idle request).1
    rw [visits_of_same (by rw [stays]), stays]
    exact ih

end

/-- The visits of a run from one node to another are as they may be. -/
structure Orderly (first last : Node (Recorder ε)) (story : List (Visit ε)) : Prop where
  /-- All that is on record was told. -/
  complete : last.contacts = first.contacts ++ story.map Visit.contact
  /-- Every visit is one that may be made. -/
  proper : ∀ v ∈ story, v.Proper
  /-- Frames come after the last time that the node knows of. -/
  inTime : ∀ v ∈ story, ∀ time last, v.request.time? = some time → first.last = some last →
    last < time
  /-- The visits come in an order that they may have. -/
  order : story.Pairwise Visit.Precedes

/-- **The visits of every run are as they may be.** -/
theorem Sound.orderly {n : Node (Recorder ε)} (sound : n.Sound)
    (create : Residency → Settings → Except Fault ε) (requests : List (Request ε)) :
    Orderly n
      (run (Recorder.making create) n (requests.map (Request.map Recorder.start))).2
      (visits (Recorder.making create) n (requests.map (Request.map Recorder.start))) := by
  induction requests generalizing n with
  | nil =>
    exact ⟨(List.append_nil _).symm, fun _ h => absurd h List.not_mem_nil,
      fun _ h => absurd h List.not_mem_nil, .nil⟩
  | cons request rest ih =>
    have adds := sound.adds create request
    have kept := handle_last (Recorder.making create) n (request.map Recorder.start)
    have next := sound.handle (Recorder.making create) (request.map Recorder.start)
    have later := ih next
    -- What is still to come is later than what the node knew before this call.
    have inTime : ∀ v ∈ visits (Recorder.making create)
        (n.handle (Recorder.making create) (request.map Recorder.start)).2
        (rest.map (Request.map Recorder.start)),
        ∀ time last, v.request.time? = some time → n.last = some last → last < time := by
      intro v member time last timed known
      obtain same | ⟨between, -, known', after⟩ := kept
      · exact later.inTime v member time last timed (same.trans known)
      · exact Int.lt_trans (after last known) (later.inTime v member time between timed known')
    cases adds with
    | nothing same =>
      refine ⟨?_, ?_, ?_, ?_⟩ <;> rw [List.map_cons, visits_of_same same]
      · rw [← same]
        exact later.complete
      · exact later.proper
      · exact inTime
      · exact later.order
    | entry contact added proper now ends taken =>
      refine ⟨?_, ?_, ?_, ?_⟩ <;> rw [List.map_cons, visits_of_added added]
      · rw [List.map_cons, List.append_cons, ← added]
        exact later.complete
      · exact List.forall_mem_cons.2 ⟨proper, later.proper⟩
      · exact List.forall_mem_cons.2 ⟨now, inTime⟩
      · refine List.pairwise_cons.2 ⟨?_, later.order⟩
        intro v member
        refine ⟨?_, ?_⟩
        · cases shut : contact.isShutdown with
          | false => rfl
          | true =>
            have closed := ends shut
            rw [visits_closed closed (next.idle (by rw [closed]; nofun))] at member
            cases member
        · intro image mask out time time' isTaken timed timed'
          exact later.inTime v member time' time timed' (taken image mask out time isTaken timed)

/-- **Keeping a record changes nothing about a run.** -/
theorem trace_recorded (create : Residency → Settings → Except Fault ε)
    (requests : List (Request ε)) :
    (trace (Recorder.making create) fresh (requests.map (Request.map Recorder.start))).map
      (Event.map Recorder.engine) = trace create fresh requests := by
  have making (r : Residency) (s : Settings) :
      create r s = (Recorder.making create r s).map Recorder.engine := by
    rw [Recorder.making]
    cases create r s <;> rfl
  have plain : (Request.map Recorder.engine ∘ Request.map Recorder.start : Request ε → _) = id := by
    funext request
    cases request <;> rfl
  have mapped := trace_map (Recorder.hom ε) making fresh (requests.map (Request.map Recorder.start))
  rw [List.map_map, plain, List.map_id] at mapped
  exact mapped.symm

theorem countP_le_one {α : Type} {p : α → Bool} {l : List α}
    (h : l.Pairwise fun a _ => p a = false) : l.countP p ≤ 1 := by
  induction h with
  | nil => exact Nat.zero_le 1
  | @cons a l last _ ih =>
    cases l with
    | nil => exact List.countP_le_length
    | cons b rest =>
      rw [List.countP_cons, last b List.mem_cons_self]
      exact ih

/-- **A node keeps to the protocol of its executor**, whatever the executor answers. Keeping a
record changes nothing about the run. The executor is reached only while the node is open, with
frames of its own memory, at times that increase from each frame that was taken; it is shut
down at most once and not reached again. Closing works at every stage, also if shutting down
fails, and a closed node refuses all but closing it again. -/
theorem executor_protocol (create : Residency → Settings → Except Fault ε)
    (requests : List (Request ε)) :
    let recorded := requests.map (Request.map Recorder.start)
    let story := visits (Recorder.making create) fresh recorded
    (trace (Recorder.making create) fresh recorded).map (Event.map Recorder.engine) =
        trace create fresh requests ∧
      story.map Visit.contact = (run (Recorder.making create) fresh recorded).2.contacts ∧
      (∀ v ∈ story, v.before.stage = .ready ∧
        ∃ e, v.before.engine = some e ∧ Reaches e v.request v.contact) ∧
      (story.Pairwise fun first later => first.contact.isShutdown = false ∧
        ∀ image mask out time time', first.contact = .process image mask (.ok out) →
          first.request.time? = some time → later.request.time? = some time' → time < time') ∧
      story.countP (·.contact.isShutdown) ≤ 1 ∧
      (∀ n : Node ε, n.close.2.stage = .closed ∧ n.close.2.engine = none ∧
        (n.engine = none → n.close.1 = .ok ()) ∧
        ∀ e, n.engine = some e → n.close.1 = (Engine.shutdown e).1) ∧
      ∀ (n : Node ε) (later : List (Request ε)), ∀ event ∈ trace create n.close.2 later,
        event.after = n.close.2 ∧ (event.request = .close → event.answer = .ok .done) ∧
          (event.request ≠ .close → ∃ fault, event.answer = .error fault ∧
            fault.kind = .contractViolation) := by
  have orderly := Sound.fresh.orderly create requests
  have closing (n : Node ε) : n.close.2.stage = .closed ∧ n.close.2.engine = none ∧
      (n.engine = none → n.close.1 = .ok ()) ∧
      ∀ e, n.engine = some e → n.close.1 = (Engine.shutdown e).1 := by
    rw [close]
    cases n.engine with
    | none => exact ⟨rfl, rfl, fun _ => rfl, by rintro _ ⟨⟩⟩
    | some e => exact ⟨rfl, rfl, by rintro ⟨⟩, by rintro _ ⟨⟩; rfl⟩
  refine ⟨?_, orderly.complete.symm, orderly.proper, orderly.order,
    countP_le_one (orderly.order.imp fun h => h.1), closing, ?_⟩
  · exact trace_recorded create requests
  · intro n later
    exact trace_closed create (closing n).1 (closing n).2.1 later

/-- The frame that comes too late does not reach the executor. -/
example : (visits (Recorder.making cpuOnly) fresh
    (shortRun.map (Request.map Recorder.start))).map (·.contact.isShutdown) = [false, true] := by
  rfl

end Node

end Tint
