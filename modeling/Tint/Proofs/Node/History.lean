import Tint.Proofs.Node.Lifecycle
import Tint.Proofs.Node.Stages

/-!
# No state across frames

A node for frames in host memory answers every frame as if it were the first one. What it is
asked before leaves the executor as it was made from the options (`Fixed.run`): frames with and
without masks, faults of its own and of the executor, frames taken in and brought out. So an
open node recolors by its options alone (`Fixed.process`), and two nodes opened with the same
options cannot be told apart by one more frame, whatever was asked of either of them before
(`process_after_history`).

## The model

* `OpenedBy` is a node that was opened by a configuration.
* `Fixed` says that a node, while it is open, works with the executor made from the settings.
* `hostOutcome` is what the settings make of a frame.
-/

namespace Tint

namespace Node

/-! ### The executor of an open node -/

/-- The node was opened by the configuration. -/
inductive OpenedBy (platform : Platform) (config : NodeConfig) : Node AnyEngine → Prop where
  /-- The node was there before. -/
  | openBy {n : Node AnyEngine} (opened : (openBy (createEngine platform) n config).1 = .ok ()) :
    OpenedBy platform config (openBy (createEngine platform) n config).2
  /-- The node is a new one. -/
  | ofConfig {n : Node AnyEngine} (made : ofConfig (createEngine platform) config = .ok n) :
    OpenedBy platform config n

/-- The node has been opened and works, while it is open, with the executor that the settings
make for frames in host memory. -/
structure Fixed (S : Settings) (n : Node AnyEngine) : Prop where
  /-- The node has been opened. -/
  opened : n.stage ≠ .uninitialized
  /-- The executor is as it was made. -/
  engine : n.stage = .ready → n.engine = some (.inl { settings := S })

variable {platform : Platform} {config : NodeConfig} {S : Settings} {n : Node AnyEngine}

theorem engineFor_host (host : config.binding.residency = .ok .cpu) {e : AnyEngine}
    (made : engineFor (createEngine platform) config = .ok e) :
    ∃ S, Settings.ofOptions config.options = .ok S ∧ e = .inl { settings := S } := by
  unfold engineFor at made
  rw [host] at made
  cases chosen : Settings.ofOptions config.options with
  | error cause =>
    rw [chosen] at made
    cases made
  | ok S =>
    rw [chosen] at made
    cases made
    exact ⟨S, rfl, rfl⟩

theorem OpenedBy.fixed (host : config.binding.residency = .ok .cpu)
    (opened : OpenedBy platform config n) :
    ∃ S, Settings.ofOptions config.options = .ok S ∧ n.Fixed S := by
  have start (m : Node AnyEngine)
      (opened : (Node.openBy (createEngine platform) m config).1 = .ok ()) :
      ∃ S, Settings.ofOptions config.options = .ok S ∧
        (Node.openBy (createEngine platform) m config).2.Fixed S := by
    have openings := @openBy_cases _ _ (createEngine platform) m config
    obtain ⟨fault, -, refused⟩ | ⟨e, made, -, -, outcome⟩ := openings
    · rw [refused] at opened
      cases opened
    · obtain ⟨S, chosen, rfl⟩ := engineFor_host host made
      rw [outcome]
      exact ⟨S, chosen, nofun, fun _ => rfl⟩
  cases opened with
  | openBy opened => exact start _ opened
  | ofConfig made =>
    unfold Node.ofConfig at made
    split at made
    · next opened =>
      cases made
      have := start fresh (congrArg Prod.fst opened)
      rwa [opened] at this
    · cases made

/-! ### Any history -/

theorem Asked.host {e : CpuEngine} {e' : AnyEngine} {request : Request AnyEngine}
    {answer : Except Fault Answer} (asked : Asked (.inl e : AnyEngine) request answer e') :
    e' = .inl e := by
  cases asked <;> rfl

/-- **A call keeps the executor**, unless it closes the node. -/
theorem Fixed.handle (fixed : n.Fixed S) (create : Residency → Settings → Except Fault AnyEngine)
    (request : Request AnyEngine) : (n.handle create request).2.Fixed S := by
  generalize ha : (n.handle create request).1 = answer
  generalize hn : (n.handle create request).2 = n'
  have step := handle_step create n request
  rw [ha, hn] at step
  cases step with
  | refused => exact fixed
  | opened _ fresh => exact absurd fresh fixed.opened
  | passed ready engine _ asked =>
    obtain rfl := Option.some.inj (engine.symm.trans (fixed.engine ready))
    obtain rfl := asked.host
    refine ⟨?_, fun _ => ?_⟩
    · rw [record_stage]
      exact fixed.opened
    · rw [record_engine]
      rfl
  | closed => exact ⟨nofun, nofun⟩

/-- **A run keeps the executor.** -/
theorem Fixed.run (fixed : n.Fixed S) (create : Residency → Settings → Except Fault AnyEngine)
    (requests : List (Request AnyEngine)) : (run create n requests).2.Fixed S := by
  induction requests generalizing n with
  | nil => exact fixed
  | cons request rest ih => exact ih (fixed.handle create request)

/-! ### One more frame -/

theorem process_eq {ε : Type} [Engine ε] {n : Node ε} {e : ε} (ready : n.stage = .ready)
    (engine : n.engine = some e) {time : Timestamp} (inTime : ∀ last ∈ n.last, last < time)
    (image : Resource) (mask : Option Resource) :
    (n.process time image mask).1 =
      (checkFrames (Engine.residency e) image mask >>= fun () =>
        (Engine.process e image mask).1).map fun out => out.map (⟨time, ·⟩) := by
  have stage : n.checkStage .ready .processing = .ok () := if_pos ready
  simp only [process, attempt, stage, checkTime_ok inTime,
    readyEngine_ready ready engine .processing]
  obtain frames | ⟨role, found, wrong⟩ := checkFrames_cases (Engine.residency e) image mask
  · rw [frames]
    generalize Engine.process e image mask = result
    obtain ⟨fault | out, e'⟩ := result
    · rfl
    · cases out <;> rfl
  · rw [wrong]
    rfl

/-- What the settings make of the frames of a call on a node for frames in host memory. -/
def hostOutcome (S : Settings) (image : Resource) (mask : Option Resource) :
    Except Fault (Option Resource) := do
  checkFrames .cpu image mask
  CpuEngine.process { settings := S } image mask

theorem hostOutcome_host (S : Settings) (source : Frame) (mask : Option Frame) :
    hostOutcome S (.host source) (mask.map .host) =
      (CpuEngine.recolor { settings := S } source mask).map fun out => out.map .host := by
  cases mask with
  | none =>
    change (CpuEngine.recolor { settings := S } source none >>= fun out =>
      pure (out.map Resource.host)) = _
    cases CpuEngine.recolor { settings := S } source none <;> rfl
  | some weights =>
    change (CpuEngine.recolor { settings := S } source (some weights) >>= fun out =>
      pure (out.map Resource.host)) = _
    cases CpuEngine.recolor { settings := S } source (some weights) <;> rfl

/-- An open node recolors by its settings alone. -/
theorem Fixed.process (fixed : n.Fixed S) (ready : n.stage = .ready) {time : Timestamp}
    (inTime : ∀ last ∈ n.last, last < time) (image : Resource) (mask : Option Resource) :
    (n.process time image mask).1 =
      (hostOutcome S image mask).map fun out => out.map (⟨time, ·⟩) :=
  process_eq ready (fixed.engine ready) inTime image mask

/-- **What was asked before does not show.** Two nodes were opened with the same options for
frames in host memory, and anything was asked of either since. While both are open, they give
the same for the same frames at times that they accept: what an executor that was just made of
the options gives, each at the time of its own call. -/
theorem process_after_history {platform platform' : Platform} {config config' : NodeConfig}
    (options : config.options = config'.options) (host : config.binding.residency = .ok .cpu)
    (host' : config'.binding.residency = .ok .cpu) {n n' : Node AnyEngine}
    (opened : OpenedBy platform config n) (opened' : OpenedBy platform' config' n')
    {history history' : List (Request AnyEngine)} {m m' : Node AnyEngine}
    (after : (run (createEngine platform) n history).2 = m)
    (after' : (run (createEngine platform') n' history').2 = m') (ready : m.stage = .ready)
    (ready' : m'.stage = .ready) {time time' : Timestamp} (inTime : ∀ last ∈ m.last, last < time)
    (inTime' : ∀ last ∈ m'.last, last < time') (image : Resource) (mask : Option Resource) :
    ∃ S, Settings.ofOptions config.options = .ok S ∧
      (m.process time image mask).1 =
        (hostOutcome S image mask).map (fun out => out.map (⟨time, ·⟩)) ∧
      (m'.process time' image mask).1 =
        (hostOutcome S image mask).map (fun out => out.map (⟨time', ·⟩)) ∧
      ∀ source weights, image = .host source → mask = weights.map .host →
        hostOutcome S image mask =
          (CpuEngine.recolor { settings := S } source weights).map fun out => out.map .host := by
  subst after after'
  obtain ⟨S, chosen, fixed⟩ := opened.fixed host
  obtain ⟨S', chosen', fixed'⟩ := opened'.fixed host'
  rw [← options, chosen] at chosen'
  obtain rfl := Except.ok.inj chosen'
  refine ⟨S, chosen, (fixed.run _ history).process ready inTime image mask,
    (fixed'.run _ history').process ready' inTime' image mask, ?_⟩
  rintro source weights rfl rfl
  exact hostOutcome_host S source weights

/-- Streams in host memory, to recolor toward green. -/
def greenConfig : NodeConfig where
  inputs := (Binding.preset .cpu).inputs
  outputs := (Binding.preset .cpu).outputs
  options := { color := some ⟨12, 200, 99⟩ }

/-- A new node with the executor for green. -/
def greenNode : Node AnyEngine where
  stage := .ready
  engine := some (.inl { settings := .ofColor ⟨12, 200, 99⟩ .red })

/-- A frame without a mask, a frame that comes too late, and one more opening. -/
def busyHistory : List (Request AnyEngine) :=
  [.importFrame CpuEngine.column, .process { micros := 3 } (.host CpuEngine.column) none,
    .process { micros := 3 } (.host CpuEngine.column) (some (.host CpuEngine.upperMask)),
    .openBy greenConfig]

/-- A new node and a busy one recolor two pixels alike. -/
theorem process_after_history_busy :
    (greenNode.process { micros := 5 } (.host CpuEngine.column)
        (some (.host CpuEngine.upperMask))).1 =
      (hostOutcome (.ofColor ⟨12, 200, 99⟩ .red) (.host CpuEngine.column)
        (some (.host CpuEngine.upperMask))).map (fun out => out.map (⟨{ micros := 5 }, ·⟩)) ∧
    ((run (createEngine .hostOnly) greenNode busyHistory).2.process { micros := 8 }
        (.host CpuEngine.column) (some (.host CpuEngine.upperMask))).1 =
      (hostOutcome (.ofColor ⟨12, 200, 99⟩ .red) (.host CpuEngine.column)
        (some (.host CpuEngine.upperMask))).map (fun out => out.map (⟨{ micros := 8 }, ·⟩)) := by
  have opened : OpenedBy .hostOnly greenConfig greenNode := .ofConfig rfl
  obtain ⟨busy, after⟩ : ∃ busy, (run (createEngine .hostOnly) greenNode busyHistory).2 = busy :=
    ⟨_, rfl⟩
  have ready : busy.stage = .ready := after ▸ rfl
  have last : busy.last = some { micros := 3 } := after ▸ rfl
  have inTime : ∀ last ∈ busy.last, last < ({ micros := 8 } : Timestamp) := by
    rw [last]
    rintro _ ⟨⟩
    decide
  have rested : ∀ last ∈ greenNode.last, last < ({ micros := 5 } : Timestamp) := by
    simp [greenNode]
  rw [after]
  obtain ⟨S, chosen, first, second, -⟩ := process_after_history rfl rfl rfl opened opened
    (rfl : (run (createEngine .hostOnly) greenNode []).2 = greenNode) after rfl ready rested
    inTime (.host CpuEngine.column) (some (.host CpuEngine.upperMask))
  obtain rfl : Settings.ofColor ⟨12, 200, 99⟩ .red = S := Except.ok.inj chosen
  exact ⟨first, second⟩

end Node

end Tint
