import Tint.Proofs.Node.Stages

/-!
# Executors on record

What reaches an executor is seen by putting it on record: a `Recorder` is an executor that
does what another one does and writes down every call made on it, with the answer. Whatever
holds of the record of any executor holds of the calls that any executor gets, provided that
keeping the record changes nothing. That is a fact about maps of executors: a map that keeps
all answers can be applied before a run or after it (`trace_map`).

## The model

* `Contact` is a call on an executor with its answer, `Recorder` an executor on record.
* `Engine.Hom` are the maps of executors that keep their answers.
-/

namespace Tint

/-! ### Records -/

/-- A call on an executor, with its answer. -/
inductive Contact where
  /-- It was asked to recolor. -/
  | process (image : Resource) (mask : Option Resource) (answer : Except Fault (Option Resource))
  /-- It was asked to take a frame in. -/
  | importFrame (frame : Frame) (answer : Except Fault Resource)
  /-- It was asked to bring a frame out. -/
  | exportFrame (frame : Resource) (answer : Except Fault Frame)
  /-- It was shut down. -/
  | shutdown (answer : Except Fault Unit)

/-- An executor on record. -/
structure Recorder (ε : Type) where
  /-- The executor. -/
  engine : ε
  /-- The calls made on it, oldest first. -/
  contacts : List Contact := []

namespace Recorder

variable {ε : Type}

/-- The executor after one more call. -/
def log (r : Recorder ε) {α : Type} (contact : α → Contact) (result : α × ε) : α × Recorder ε :=
  (result.1, ⟨result.2, r.contacts ++ [contact result.1]⟩)

/-- An executor that no call was made on. -/
def start (e : ε) : Recorder ε := { engine := e }

variable [Engine ε]

instance : Engine (Recorder ε) where
  residency r := Engine.residency r.engine
  process r image mask := r.log (.process image mask) (Engine.process r.engine image mask)
  importFrame r frame := r.log (.importFrame frame) (Engine.importFrame r.engine frame)
  exportFrame r frame := r.log (.exportFrame frame) (Engine.exportFrame r.engine frame)
  shutdown r := r.log .shutdown (Engine.shutdown r.engine)

end Recorder

/-! ### Maps of executors -/

/-- A map of executors that keeps what they answer. -/
structure Engine.Hom {α β : Type} [Engine α] [Engine β] (f : α → β) : Prop where
  /-- The memory is kept. -/
  residency : ∀ e, Engine.residency (f e) = Engine.residency e
  /-- Recoloring is kept. -/
  process : ∀ e image mask, Engine.process (f e) image mask = lift f (Engine.process e image mask)
  /-- Taking a frame in is kept. -/
  importFrame : ∀ e frame, Engine.importFrame (f e) frame = lift f (Engine.importFrame e frame)
  /-- Bringing a frame out is kept. -/
  exportFrame : ∀ e frame, Engine.exportFrame (f e) frame = lift f (Engine.exportFrame e frame)
  /-- Shutting down is kept. -/
  shutdown : ∀ e, Engine.shutdown (f e) = lift f (Engine.shutdown e)

theorem Recorder.hom (ε : Type) [Engine ε] : Engine.Hom (Recorder.engine : Recorder ε → ε) where
  residency _ := rfl
  process _ _ _ := rfl
  importFrame _ _ := rfl
  exportFrame _ _ := rfl
  shutdown _ := rfl

namespace Node

section

variable {α β : Type}

/-- The node with its executors mapped. -/
def map (f : α → β) (n : Node α) : Node β :=
  ⟨n.stage, n.engine.map f, n.last, n.emitted, n.retired.map f⟩

/-- The request with its executor mapped. -/
def Request.map (f : α → β) : Request α → Request β
  | .openBy config => .openBy config
  | .openWith streams engine => .openWith streams (f engine)
  | .importFrame frame => .importFrame frame
  | .process time image mask => .process time image mask
  | .exportFrame frame => .exportFrame frame
  | .close => .close

/-- The call with its executors mapped. -/
def Event.map (f : α → β) (event : Event α) : Event β :=
  ⟨event.request.map f, event.answer, event.after.map f⟩

variable {f : α → β} {n : Node α}

theorem attempt_map {γ δ : Type} (check : Except Fault γ)
    {next : γ → Except Fault δ × Node α} {next' : γ → Except Fault δ × Node β}
    (h : ∀ a, next' a = Engine.lift (map f) (next a)) :
    (n.map f).attempt check next' = Engine.lift (map f) (n.attempt check next) := by
  cases check with
  | error fault => rfl
  | ok a => exact h a

/-- An executor is handed over as its map. -/
theorem attempt_readyEngine_map {γ : Type} (call : NodeCall)
    {next : α → Except Fault γ × Node α} {next' : β → Except Fault γ × Node β}
    (h : ∀ e, next' (f e) = Engine.lift (map f) (next e)) :
    (n.map f).attempt ((n.map f).readyEngine call) next' =
      Engine.lift (map f) (n.attempt (n.readyEngine call) next) := by
  obtain ⟨stage, engine, last, emitted, retired⟩ := n
  cases stage with
  | uninitialized | closed => rfl
  | ready =>
    cases engine with
    | none => rfl
    | some e => exact h e

variable {makeα : Residency → Settings → Except Fault α}
  {makeβ : Residency → Settings → Except Fault β}

theorem engineFor_map (making : ∀ r s, makeβ r s = (makeα r s).map f) (config : NodeConfig) :
    engineFor makeβ config = (engineFor makeα config).map f := by
  unfold engineFor
  cases config.binding.residency with
  | error cause => rfl
  | ok r =>
    cases Settings.ofOptions config.options with
    | error cause => rfl
    | ok s => exact making r s

variable [Engine α] [Engine β]

theorem openWith_map (hom : Engine.Hom f) (streams : Binding) (e : α) :
    (n.map f).openWith streams (f e) = Engine.lift (map f) (n.openWith streams e) := by
  unfold openWith
  refine attempt_map _ fun () => attempt_map _ fun r => ?_
  rw [checkEngine, hom.residency, ← checkEngine]
  exact attempt_map _ fun () => rfl

theorem openBy_map (hom : Engine.Hom f) (making : ∀ r s, makeβ r s = (makeα r s).map f)
    (config : NodeConfig) :
    openBy makeβ (n.map f) config = Engine.lift (map f) (openBy makeα n config) := by
  unfold openBy
  refine attempt_map _ fun () => ?_
  rw [engineFor_map making]
  cases engineFor makeα config with
  | error fault => rfl
  | ok e => exact openWith_map hom config.binding e

/-- **A map that keeps all answers can be applied before a call or after it.** -/
theorem handle_map (hom : Engine.Hom f) (making : ∀ r s, makeβ r s = (makeα r s).map f)
    (n : Node α) (request : Request α) :
    (n.map f).handle makeβ (request.map f) = Engine.lift (map f) (n.handle makeα request) := by
  cases request with
  | openBy config => exact congrArg (answer fun _ => .done) (openBy_map hom making config)
  | openWith streams e => exact congrArg (answer fun _ => .done) (openWith_map hom streams e)
  | importFrame frame =>
    refine congrArg (answer .imported) (attempt_readyEngine_map .importing fun e => ?_)
    rw [hom.importFrame]
    rfl
  | exportFrame frame =>
    refine congrArg (answer .exported) (attempt_readyEngine_map .exporting fun e => ?_)
    rw [hom.exportFrame]
    rfl
  | process time image mask =>
    refine congrArg (answer .output) (attempt_map _ fun () => attempt_map _ fun () =>
      attempt_readyEngine_map .processing fun e => ?_)
    rw [hom.residency]
    refine attempt_map _ fun () => ?_
    rw [hom.process]
    obtain ⟨fault | out, e'⟩ := Engine.process e image mask
    · rfl
    · cases out <;> rfl
  | close =>
    obtain ⟨stage, engine, last, emitted, retired⟩ := n
    cases engine with
    | none => rfl
    | some e =>
      rw [Request.map, handle_close_some (e := e) rfl, handle_close_some (e := f e) rfl, hom.shutdown]
      obtain ⟨fault | _, e'⟩ := Engine.shutdown e <;> rfl

/-- **A map that keeps all answers can be applied before a run or after it.** -/
theorem trace_map (hom : Engine.Hom f) (making : ∀ r s, makeβ r s = (makeα r s).map f)
    (n : Node α) (requests : List (Request α)) :
    trace makeβ (n.map f) (requests.map (Request.map f)) =
      (trace makeα n requests).map (Event.map f) := by
  induction requests generalizing n with
  | nil => rfl
  | cons request rest ih =>
    have first := handle_map hom making n request
    rw [List.map_cons, trace_cons, trace_cons, List.map_cons, first]
    exact congrArg _ (ih _)

end

end Node

end Tint
