import Tint.Proofs.Node.Lifecycle
import Tint.Proofs.Node.Rejection

/-!
# How a node is opened

A node is opened by a configuration in four steps: its stage, its streams, its options and an
executor for them. The first step that fails is the answer, and nothing is changed. Two of the
steps are made again with the executor at hand, and cannot fail then: the stage and the streams
are the same, and the executor was made for their memory.

## The model

* `Options.settings` are the settings that options stand for, `Platform.Supports` is what a
  platform has executors for. Both are said without what computes them.
* `Opens` and `Refused` are the ways in which opening goes: no rule is broken, or this one is the
  first.
* `making` makes the executors of a platform for nodes that may also be handed executors of a
  caller's own, so that a node may have had any of them before.

## What is proved

* `Opens.openBy` and `Refused.openBy`: there are no other ways.
* `run_uninitialized`: a node that is yet to be opened is as it was at first, whatever was asked.
* `opening_reached`: what opening does to a node that can come about.
-/

namespace Tint

/-! ### Settings -/

namespace Options

/-- The channel of the mask that options ask for: alpha if they name it, and else the first. -/
def maskChannel (o : Options) : Channel := if o.channel = some .alpha then .alpha else .red

/-- The settings of the options, for a color. -/
def settings (o : Options) (color : Color) : Settings :=
  ⟨color.map fun c => ofByte c / fullByte, o.maskChannel⟩

theorem ofOptions_of_color {o : Options} {color : Color} (chosen : o.color = some color) :
    Settings.ofOptions o = .ok (o.settings color) := by
  have channel : (o.channel.getD Channel.preset).resolved = o.maskChannel := by
    rw [maskChannel]
    obtain _ | _ | _ | _ := o.channel <;> rfl
  rw [Settings.ofOptions, chosen, settings, ← channel]
  rfl

theorem ofOptions_of_none {o : Options} (missing : o.color = none) :
    Settings.ofOptions o = .error .missingColor := by
  rw [Settings.ofOptions, missing]

end Options

/-! ### Executors -/

/-- A platform has executors for a memory. -/
inductive Platform.Supports : Platform → Residency → Prop where
  /-- Host memory is always there. -/
  | host (platform : Platform) : Supports platform .cpu
  /-- A graphics device takes an adapter. -/
  | device (adapter : Gpu.Adapter) : Supports (.graphics (some adapter)) .gpu

/-- A program that knows nothing of graphics devices has executors for host memory only. -/
theorem Platform.supports_hostOnly {r : Residency} : hostOnly.Supports r ↔ r = .cpu := by
  constructor
  · rintro ⟨⟩
    rfl
  · rintro rfl
    exact .host _

/-- The settings that an executor of either memory was made from. -/
def settingsOf : AnyEngine → Settings
  | .inl e => e.settings
  | .inr e => e.settings

theorem createEngine_ok {platform : Platform} {r : Residency} {S : Settings} {e : AnyEngine}
    (made : createEngine platform r S = .ok e) :
    Engine.residency e = r ∧ settingsOf e = S ∧ platform.Supports r := by
  obtain _ | _ | adapter := platform <;> cases r <;> cases made
  · exact ⟨rfl, rfl, .host _⟩
  · exact ⟨rfl, rfl, .host _⟩
  · exact ⟨rfl, rfl, .host _⟩
  · exact ⟨rfl, rfl, .device adapter⟩

theorem Platform.Supports.createEngine {platform : Platform} {r : Residency}
    (supports : platform.Supports r) (S : Settings) : ∃ e, createEngine platform r S = .ok e := by
  cases supports with
  | host => exact ⟨_, rfl⟩
  | device adapter => exact ⟨_, rfl⟩

namespace Node

section

variable {ε : Type} [Engine ε] {create : Residency → Settings → Except Fault ε} {n : Node ε}
  {config : NodeConfig}

/-! ### Opening one node -/

/-- No rule of opening is broken, and an executor is made. -/
inductive Opens (create : Residency → Settings → Except Fault ε) (n : Node ε)
    (config : NodeConfig) : ε → Prop where
  /-- The node is new, the streams share a memory, there is a color, and there is an executor. -/
  | intro {r : Residency} {color : Color} {e : ε} (unopened : n.stage = .uninitialized)
    (streams : config.binding.residency = .ok r) (chosen : config.options.color = some color)
    (made : create r (config.options.settings color) = .ok e) : Opens create n config e

/-- The fault of the first rule of opening that is broken. -/
inductive Refused (create : Residency → Settings → Except Fault ε) (n : Node ε)
    (config : NodeConfig) : Fault → Prop where
  /-- The node was opened before, or closed. -/
  | stage (used : n.stage ≠ .uninitialized) :
    Refused create n config (.node (.wrongStage .opening n.stage))
  /-- The streams are not accepted. -/
  | streams {cause : BindingError} (unopened : n.stage = .uninitialized)
    (faulty : config.binding.residency = .error cause) : Refused create n config (.binding cause)
  /-- There is no color. -/
  | color {r : Residency} (unopened : n.stage = .uninitialized)
    (streams : config.binding.residency = .ok r) (missing : config.options.color = none) :
    Refused create n config (.options .missingColor)
  /-- There is no executor. -/
  | engine {r : Residency} {color : Color} {fault : Fault} (unopened : n.stage = .uninitialized)
    (streams : config.binding.residency = .ok r) (chosen : config.options.color = some color)
    (failed : create r (config.options.settings color) = .error fault) :
    Refused create n config fault

omit [Engine ε] in
/-- A rule is broken, or none is. -/
theorem opens_or_refused (create : Residency → Settings → Except Fault ε) (n : Node ε)
    (config : NodeConfig) :
    (∃ e, Opens create n config e) ∨ ∃ fault, Refused create n config fault := by
  by_cases unopened : n.stage = .uninitialized
  · cases streams : config.binding.residency with
    | error cause => exact .inr ⟨_, .streams unopened streams⟩
    | ok r =>
      cases chosen : config.options.color with
      | none => exact .inr ⟨_, .color unopened streams chosen⟩
      | some color =>
        cases made : create r (config.options.settings color) with
        | error fault => exact .inr ⟨fault, .engine unopened streams chosen made⟩
        | ok e => exact .inl ⟨e, .intro unopened streams chosen made⟩
  · exact .inr ⟨_, .stage unopened⟩

omit [Engine ε] in
theorem engineFor_of_color {r : Residency} {color : Color}
    (streams : config.binding.residency = .ok r) (chosen : config.options.color = some color) :
    engineFor create config = create r (config.options.settings color) := by
  rw [engineFor, streams, Options.ofOptions_of_color chosen]
  rfl

omit [Engine ε] in
theorem engineFor_eq_ok_iff {e : ε} : engineFor create config = .ok e ↔
    ∃ r, config.binding.residency = .ok r ∧ ∃ S, Settings.ofOptions config.options = .ok S ∧
      create r S = .ok e := by
  simp only [engineFor, bind_eq_ok_iff, mapError_eq_ok_iff]

/-- Executors are made for the memory that they are asked for. -/
def InMemory (create : Residency → Settings → Except Fault ε) : Prop :=
  ∀ r S e, create r S = .ok e → Engine.residency e = r

/-- **If no rule is broken, the node is open.** What is checked again with the executor at hand
was checked before it was made. -/
theorem Opens.openBy (inMemory : InMemory create) {e : ε} (opens : Opens create n config e) :
    openBy create n config = (.ok (), { n with engine := some e, stage := .ready }) := by
  obtain ⟨unopened, streams, chosen, made⟩ := opens
  obtain rfl := inMemory _ _ _ made
  have stage : n.checkStage .uninitialized .opening = .ok () := if_pos unopened
  have memory : checkEngine (Engine.residency e) e = .ok () := if_pos rfl
  simp only [Node.openBy, openWith, attempt, stage, engineFor_of_color streams chosen, made,
    streams, Except.mapError, memory]
  rfl

/-- **If a rule is broken, the first one is the fault**, and the node stays as it is. -/
theorem Refused.openBy {fault : Fault} (refused : Refused create n config fault) :
    openBy create n config = (.error fault, n) := by
  have later (unopened : n.stage = .uninitialized)
      (failed : engineFor create config = .error fault) :
      Node.openBy create n config = (.error fault, n) := by
    have stage : n.checkStage .uninitialized .opening = .ok () := if_pos unopened
    rw [Node.openBy, stage, failed]
    rfl
  cases refused with
  | stage used =>
    have stage : n.checkStage .uninitialized .opening = _ := if_neg used
    rw [Node.openBy, stage]
    rfl
  | streams unopened faulty =>
    refine later unopened ?_
    rw [engineFor, faulty]
    rfl
  | color unopened streams missing =>
    refine later unopened ?_
    rw [engineFor, streams, Options.ofOptions_of_none missing]
    rfl
  | engine unopened streams chosen failed =>
    exact later unopened ((engineFor_of_color streams chosen).trans failed)

/-- Opening succeeds exactly if no rule is broken. -/
theorem openBy_eq_ok_iff (inMemory : InMemory create) :
    (openBy create n config).1 = .ok () ↔ ∃ e, Opens create n config e := by
  constructor
  · intro opened
    obtain opens | ⟨fault, refused⟩ := opens_or_refused create n config
    · exact opens
    · rw [refused.openBy] at opened
      cases opened
  · rintro ⟨e, opens⟩
    rw [opens.openBy inMemory]

/-- Opening fails exactly with the first rule that is broken. -/
theorem openBy_eq_error_iff (inMemory : InMemory create) {fault : Fault} :
    (openBy create n config).1 = .error fault ↔ Refused create n config fault := by
  constructor
  · intro failed
    obtain ⟨e, opens⟩ | ⟨fault', refused⟩ := opens_or_refused create n config
    · rw [opens.openBy inMemory] at failed
      cases failed
    · rw [refused.openBy] at failed
      cases failed
      exact refused
  · intro refused
    rw [refused.openBy]

/-! ### After any calls -/

theorem Step.uninitialized {n' : Node ε} {request : Request ε} {answer : Except Fault Answer}
    (step : Step create n request answer n') (unopened : n'.stage = .uninitialized) : n' = n := by
  cases step with
  | refused => rfl
  | opened => cases unopened
  | passed ready =>
    rw [record_stage] at unopened
    exact nomatch ready.symm.trans unopened
  | closed => cases unopened

/-- **A node that is yet to be opened after a run is what it was before.** -/
theorem run_uninitialized (create : Residency → Settings → Except Fault ε) (n : Node ε)
    (requests : List (Request ε)) (unopened : (run create n requests).2.stage = .uninitialized) :
    (run create n requests).2 = n := by
  induction requests generalizing n with
  | nil => rfl
  | cons request rest ih =>
    have later : (run create n (request :: rest)).2 = (n.handle create request).2 := ih _ unopened
    rw [later] at unopened ⊢
    exact (handle_step create n request).uninitialized unopened

end

/-! ### Executors of a platform -/

section

variable {α : Type} [Engine α]

/-- Executors of a platform, on a node that may also be handed executors of another kind. -/
def making (platform : Platform) (r : Residency) (S : Settings) : Except Fault (AnyEngine ⊕ α) :=
  (createEngine platform r S).map .inl

omit [Engine α] in
/-- An executor of a platform is the one that the platform makes. -/
theorem making_eq_ok {platform : Platform} {r : Residency} {S : Settings} {e : AnyEngine ⊕ α}
    (made : making platform r S = .ok e) :
    ∃ own, createEngine platform r S = .ok own ∧ e = .inl own := by
  rw [making] at made
  cases outcome : createEngine platform r S with
  | error fault =>
    rw [outcome] at made
    cases made
  | ok own =>
    rw [outcome] at made
    cases made
    exact ⟨own, rfl, rfl⟩

omit [Engine α] in
theorem making_eq_error {platform : Platform} {r : Residency} {S : Settings} {fault : Fault}
    (failed : (making platform r S : Except Fault (AnyEngine ⊕ α)) = .error fault) :
    createEngine platform r S = .error fault :=
  eq_error_of_map failed

theorem inMemory_making (platform : Platform) :
    InMemory (making platform : Residency → Settings → Except Fault (AnyEngine ⊕ α)) := by
  intro r S e made
  obtain ⟨own, created, rfl⟩ := making_eq_ok made
  exact (createEngine_ok created).1

/-- **What opening a node by a configuration does**, on a platform. -/
structure Opening (platform : Platform) (config : NodeConfig) (n : Node (AnyEngine ⊕ α)) :
    Prop where
  /-- The node is opened exactly if it is new, its streams share a memory, there is a color, and
  the platform has executors for the memory. -/
  succeeds_iff : (openBy (making platform) n config).1 = .ok () ↔
    n.stage = .uninitialized ∧ ∃ r color, config.binding.residency = .ok r ∧
      config.options.color = some color ∧ platform.Supports r
  /-- It then works with an executor for the memory of its streams, made from the color and the
  channel of the options. -/
  opened : (openBy (making platform) n config).1 = .ok () → ∃ r color e,
    config.binding.residency = .ok r ∧ config.options.color = some color ∧
      createEngine platform r (config.options.settings color) = .ok e ∧ Engine.residency e = r ∧
      settingsOf e = config.options.settings color ∧
      (openBy (making platform) n config).2 =
        { fresh with stage := .ready, engine := some (.inl e) }
  /-- Otherwise the fault is that of the first rule that is broken. -/
  refused_iff : ∀ fault, (openBy (making platform) n config).1 = .error fault ↔
    Refused (making platform) n config fault
  /-- The node is then as it was. -/
  unchanged : ∀ fault, (openBy (making platform) n config).1 = .error fault →
    (openBy (making platform) n config).2 = n
  /-- Without graphics devices only the stage is not a matter of the setup. -/
  kind : platform = .hostOnly → ∀ fault, (openBy (making platform) n config).1 = .error fault →
    fault.kind = if n.stage = .uninitialized then .configuration else .contractViolation
  /-- What is checked once more with the executor at hand passes. -/
  checked : n.stage = .uninitialized → ∀ e, engineFor (making platform) config = .ok e →
    (∃ r, config.binding.residency = .ok r ∧ checkEngine r e = .ok ()) ∧
      (n.openWith config.binding e).1 = .ok ()

omit [Engine α] in
/-- Without graphics devices a rule that is broken on a new node is one of the setup. -/
theorem Refused.kind {config : NodeConfig} {n : Node (AnyEngine ⊕ α)} {fault : Fault}
    (refused : Refused (making .hostOnly) n config fault) :
    fault.kind = if n.stage = .uninitialized then .configuration else .contractViolation := by
  cases refused with
  | stage used => exact (if_neg used).symm
  | streams unopened => exact (if_pos unopened).symm
  | color unopened => exact (if_pos unopened).symm
  | @engine r color fault unopened _ _ failed =>
    have failed := making_eq_error failed
    cases r with
    | cpu => cases failed
    | gpu =>
      cases failed
      exact (if_pos unopened).symm

omit [Engine α] in
/-- A node is opened with an executor of the platform exactly if the platform has one. -/
theorem exists_opens_iff {platform : Platform} {config : NodeConfig} {n : Node (AnyEngine ⊕ α)} :
    (∃ e, Opens (making platform) n config e) ↔
      n.stage = .uninitialized ∧ ∃ r color, config.binding.residency = .ok r ∧
        config.options.color = some color ∧ platform.Supports r := by
  constructor
  · rintro ⟨e, unopened, streams, chosen, made⟩
    obtain ⟨own, created, -⟩ := making_eq_ok made
    exact ⟨unopened, _, _, streams, chosen, (createEngine_ok created).2.2⟩
  · rintro ⟨unopened, r, color, streams, chosen, supports⟩
    obtain ⟨own, created⟩ := supports.createEngine (config.options.settings color)
    exact ⟨.inl own, .intro unopened streams chosen (by rw [making, created]; rfl)⟩

/-- **Opening by a configuration succeeds exactly when it should and is all or nothing**, on every
node that can come about, whatever executors it was handed before. -/
theorem opening_reached (platform : Platform) (config : NodeConfig)
    (requests : List (Request (AnyEngine ⊕ α))) :
    Opening platform config (run (making platform) fresh requests).2 ∧
      ∀ r, Platform.hostOnly.Supports r ↔ r = .cpu := by
  refine ⟨?_, fun r => Platform.supports_hostOnly⟩
  generalize reached : (run (making platform) fresh requests).2 = n
  have inMemory : InMemory (making (α := α) platform) := inMemory_making platform
  refine ⟨?_, ?_, fun fault => openBy_eq_error_iff inMemory, ?_, ?_, ?_⟩
  · rw [openBy_eq_ok_iff inMemory]
    exact exists_opens_iff
  · intro opened
    obtain ⟨e, opens⟩ := (openBy_eq_ok_iff inMemory).1 opened
    obtain ⟨unopened, streams, chosen, made⟩ := id opens
    obtain ⟨own, created, rfl⟩ := making_eq_ok made
    obtain ⟨memory, settings, -⟩ := createEngine_ok created
    have new : n = fresh := by
      rw [← reached]
      exact run_uninitialized _ _ _ (by rw [reached]; exact unopened)
    refine ⟨_, _, own, streams, chosen, created, memory, settings, ?_⟩
    rw [opens.openBy inMemory, new]
  · intro fault failed
    rw [((openBy_eq_error_iff inMemory).1 failed).openBy]
  · rintro rfl fault failed
    exact ((openBy_eq_error_iff inMemory).1 failed).kind
  · intro unopened e made
    obtain ⟨r, streams, S, -, made⟩ := engineFor_eq_ok_iff.1 made
    obtain rfl := inMemory _ _ _ made
    exact ⟨⟨_, streams, if_pos rfl⟩, openWith_ok unopened streams⟩

end

end Node

end Tint
