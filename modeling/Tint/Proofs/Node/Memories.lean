import Tint.Proofs.Node.Books

/-!
# Nodes in either memory

A node for frames in host memory and one for frames on a healthy device, opened with the same
options, cannot be told apart by what is seen of them (`memories_agree`): calls that take small
enough frames in, recolor what has colors, and weigh by masks that were taken in, have the same
answers, fault for fault, and leave the nodes at the same stage.

They can be told apart by weighing with an output. In host memory an output is color and has no
alpha; on a device it is taken to have one, also where nothing but color ever came in. So if
the weight is the alpha of the mask, the one node refuses an output as a mask and the other
draws with it (`output_as_mask`).

## Honest scope

The bytes of outputs are not compared: what a device draws is not known here. A device is
healthy if its own checks have nothing to say, and its greatest side is at most `2 ^ 24`; a
device is opened with a greatest side of `8192`.
-/

namespace Tint

namespace Node

open Gpu

/-! ### Opening -/

/-- Executors of either memory, with one adapter. -/
abbrev createOn (adapter : Adapter) : Residency → Settings → Except Fault AnyEngine :=
  createEngine (.graphics (some adapter))

/-- The executor for a memory, with one adapter. -/
def engineOn (adapter : Adapter) (S : Settings) : Residency → AnyEngine
  | .cpu => .inl { settings := S }
  | .gpu => .inr {
      worker := { thread := .waiting ⟨adapter.device, { settings := S }⟩, adapter := adapter.name }
      settings := S }

/-- An open node that was not used yet. -/
def opened (e : AnyEngine) : Node AnyEngine := { stage := .ready, engine := some e }

theorem residency_engineOn (adapter : Adapter) (S : Settings) (r : Residency) :
    Engine.residency (engineOn adapter S r) = r := by
  cases r <;> rfl

theorem openBy_createOn (adapter : Adapter) (config : NodeConfig) {r : Residency}
    (valid : config.binding.residency = .ok r) :
    openBy (createOn adapter) fresh config =
      match Settings.ofOptions config.options with
      | .error cause => (.error (.options cause), fresh)
      | .ok S => (.ok (), opened (engineOn adapter S r)) := by
  have stage : (fresh : Node AnyEngine).checkStage .uninitialized .opening = .ok () := if_pos rfl
  cases chosen : Settings.ofOptions config.options with
  | error cause =>
    simp only [openBy, attempt, stage, engineFor, valid, chosen]
    rfl
  | ok S =>
    have made : engineFor (createOn adapter) config = .ok (engineOn adapter S r) := by
      simp only [engineFor, valid, chosen]
      cases r <;> rfl
    have memory : checkEngine r (engineOn adapter S r) = .ok () :=
      if_pos (residency_engineOn adapter S r)
    simp only [openBy, attempt, stage, made, openWith, valid, Except.mapError, memory]
    rfl

/-- The layout that outputs are known by. -/
def outputLayout : Residency → PixelLayout
  | .cpu => .rgb
  | .gpu => .rgba

/-- What the executor for a memory will answer. -/
def forecastOn (S : Settings) {limit : Nat} (small : limit ≤ 2 ^ 24) :
    (r : Residency) → Forecast AnyEngine S.channel (outputLayout r) limit
  | .cpu => CpuEngine.forecast S small
  | .gpu => GpuEngine.forecast S small

theorem books_opened {adapter : Adapter} (healthy : adapter.device.Healthy)
    (small : adapter.device.limit ≤ 2 ^ 24) (S : Settings) (r : Residency) :
    Books (forecastOn S small r) [] ⟨opened (engineOn adapter S r), []⟩ { stage := .ready } := by
  have at_work : ∃ w, (forecastOn S small r).At w (engineOn adapter S r) := by
    cases r with
    | cpu => exact ⟨(), rfl⟩
    | gpu => exact ⟨⟨adapter.device, { settings := S }⟩, _, rfl, rfl, rfl, rfl, healthy, rfl, rfl⟩
  obtain ⟨w, at_work⟩ := at_work
  exact ⟨⟨rfl, rfl, rfl⟩, ⟨_, .ready rfl rfl at_work, .nil⟩, .nil⟩

/-! ### Weighing by masks that were taken in -/

/-- The mask of a call was taken in, if there is one. -/
def HostCall.MaskedBy (prior : List (HostCall Nat)) : HostCall Nat → Prop
  | .process _ _ mask => ∀ m ∈ mask, ∃ f, prior[m]? = some (.importFrame f)
  | _ => True

/-- Two ledgers that differ in the layout of outputs at most. -/
structure Ledger.Twins (o o' : PixelLayout) (prior : List (HostCall Nat)) (l l' : Ledger) :
    Prop where
  /-- The stages are the same. -/
  stage : l.stage = l'.stage
  /-- The times of the last frame taken are the same. -/
  last : l.last = l'.last
  /-- The numbers of outputs are the same. -/
  emitted : l.emitted = l'.emitted
  /-- The same frames are there, in the same sizes. -/
  held : List.Forall₂ (Option.Rel fun s s' : Sheet => s.extent = s'.extent) l.held l'.held
  /-- The one ledger says what the calls may have given out. -/
  gave : List.Forall₂ (Gave o) prior l.held
  /-- The other ledger does, too. -/
  gave' : List.Forall₂ (Gave o') prior l'.held

/-- Two calls that differ at most in the layouts of frames that are not weighed by. -/
inductive HostCall.Alike : HostCall Sheet → HostCall Sheet → Prop where
  /-- The same frame is taken in. -/
  | importFrame (f : Frame) : Alike (.importFrame f) (.importFrame f)
  /-- Without a mask. -/
  | unmasked {s s' : Sheet} (time : Timestamp) (h : s.extent = s'.extent) :
    Alike (.process time s none) (.process time s' none)
  /-- With the same mask. -/
  | masked {s s' : Sheet} (time : Timestamp) (h : s.extent = s'.extent) (mask : Sheet) :
    Alike (.process time s (some mask)) (.process time s' (some mask))
  /-- Frames of the same size are brought out. -/
  | exportFrame {s s' : Sheet} (h : s.extent = s'.extent) : Alike (.exportFrame s) (.exportFrame s')
  /-- Both close. -/
  | close : Alike .close .close

section

variable {channel : Channel} {o o' : PixelLayout} {prior : List (HostCall Nat)} {l l' : Ledger}

/-- A mask that was taken in is the same frame in both ledgers. -/
theorem Ledger.Twins.alike (twins : Twins o o' prior l l') {call : HostCall Nat}
    (masked : call.MaskedBy prior) {named named' : HostCall Sheet}
    (here : call.resolve? l.held = some named) (there : call.resolve? l'.held = some named')
    (same : named.Rel (fun s s' => s.extent = s'.extent) named') : named.Alike named' := by
  cases same with
  | importFrame f => exact .importFrame f
  | unmasked time h => exact .unmasked time h
  | exportFrame h => exact .exportFrame h
  | close => exact .close
  | @masked image mask image' mask' time h weights =>
    have names := HostCall.rel_of_resolve? here
    have names' := HostCall.rel_of_resolve? there
    cases names with
    | @masked i m _ _ _ _ given =>
      cases names' with
      | masked _ _ given' =>
        obtain ⟨f, made⟩ := masked m rfl
        have known := gave_given? twins.gave made given mask rfl
        have known' := gave_given? twins.gave' made given' mask' rfl
        rw [known, known']
        exact .masked time h _

theorem Ledger.Twins.answer_eq (twins : Twins o o' prior l l') {named named' : HostCall Sheet}
    (alike : named.Alike named') : l.answer channel named = l'.answer channel named' := by
  cases alike with
  | importFrame f | unmasked time h | masked time h mask | exportFrame h | close =>
    simp only [answer, whenReady, weighed, twins.stage, twins.last, *]

theorem HostCall.Alike.entered {named named' : HostCall Sheet} (alike : named.Alike named')
    (answer : Except Fault View) (stage : l.stage = l'.stage) (last : l.last = l'.last)
    (emitted : l.emitted = l'.emitted) :
    (l.entered named answer).stage = (l'.entered named' answer).stage ∧
      (l.entered named answer).last = (l'.entered named' answer).last ∧
      (l.entered named answer).emitted = (l'.entered named' answer).emitted := by
  cases alike with
  | importFrame | exportFrame => exact ⟨stage, last, emitted⟩
  | close => exact ⟨rfl, last, emitted⟩
  | unmasked | masked =>
    cases answer with
    | error fault => exact ⟨stage, last, emitted⟩
    | ok view =>
      cases view with
      | output packet => exact ⟨stage, rfl, congrArg (· + packet.toList.length) emitted⟩
      | done | imported | exported => exact ⟨stage, last, emitted⟩

theorem HostCall.Alike.sheet? {named named' : HostCall Sheet} (alike : named.Alike named')
    (answer : Except Fault View) :
    Option.Rel (fun s s' : Sheet => s.extent = s'.extent) (Ledger.sheet? o named answer)
      (Ledger.sheet? o' named' answer) := by
  cases answer with
  | error fault => cases alike <;> exact .none
  | ok view =>
    cases alike with
    | importFrame f => exact .some rfl
    | exportFrame | close => exact .none
    | unmasked | masked =>
      cases view with
      | output packet =>
        cases packet with
        | none => exact .none
        | some p => exact .some rfl
      | done | imported | exported => exact .none

theorem Ledger.Twins.step (twins : Twins o o' prior l l') {call : HostCall Nat}
    (masked : call.MaskedBy prior) :
    (l.step channel o call).1 = (l'.step channel o' call).1 ∧
      Twins o o' (prior ++ [call]) (l.step channel o call).2 (l'.step channel o' call).2 := by
  obtain ⟨here, there⟩ | ⟨named, named', here, there, same⟩ := call.resolve?_cases twins.held
  · simp only [Ledger.step, here, there, true_and]
    exact ⟨twins.stage, twins.last, twins.emitted, List.rel_append twins.held (.cons .none .nil),
      List.rel_append twins.gave (.cons (gave_none o call) .nil),
      List.rel_append twins.gave' (.cons (gave_none o' call) .nil)⟩
  · have alike := twins.alike masked here there same
    have answer : l.answer channel named = l'.answer channel named' := twins.answer_eq alike
    obtain ⟨stage, last, emitted⟩ :=
      alike.entered (l'.answer channel named') twins.stage twins.last twins.emitted
    simp only [Ledger.step, here, there, answer, stage, emitted, true_and]
    exact ⟨rfl, last, rfl, List.rel_append twins.held (.cons (alike.sheet? _) .nil),
      List.rel_append twins.gave (.cons (gave_sheet? here _) .nil),
      List.rel_append twins.gave' (.cons (gave_sheet? there _) .nil)⟩

theorem Ledger.Twins.run (twins : Twins o o' prior l l') {calls : List (HostCall Nat)}
    (masked : Along (fun prior call => call.MaskedBy prior) prior calls) :
    (l.run channel o calls).1 = (l'.run channel o' calls).1 := by
  induction calls generalizing prior l l' with
  | nil => rfl
  | cons call rest ih =>
    obtain ⟨first, later⟩ := masked
    obtain ⟨sight, twins'⟩ : (l.step channel o call).1 = (l'.step channel o' call).1 ∧ _ :=
      twins.step first
    exact congrArg₂ List.cons sight (ih twins' later)

end

theorem along_and {P Q : List (HostCall Nat) → HostCall Nat → Prop} {prior : List (HostCall Nat)}
    {calls : List (HostCall Nat)} :
    Along (fun prior call => P prior call ∧ Q prior call) prior calls ↔
      Along P prior calls ∧ Along Q prior calls := by
  induction calls generalizing prior with
  | nil => simp [Along]
  | cons call rest ih => simp only [Along, ih, and_and_and_comm]

/-- **Nodes in either memory look the same from host memory.** They are opened with the same
options, and then calls are made that take frames in with sides that the device allows, recolor
what came in as color or was recolored, and weigh by what came in. On a healthy device,
everything that is seen of the one node is seen of the other. -/
theorem memories_agree {adapter : Adapter} (healthy : adapter.device.Healthy)
    (small : adapter.device.limit ≤ 2 ^ 24) {host device : NodeConfig}
    (options : host.options = device.options) (inHost : host.binding.residency = .ok .cpu)
    (onDevice : device.binding.residency = .ok .gpu) {calls : List (HostCall Nat)}
    (fits : Along (fun prior call => call.Fits adapter.device.limit prior ∧ call.MaskedBy prior) []
      calls) :
    session (createOn adapter) host calls = session (createOn adapter) device calls := by
  obtain ⟨fits, masked⟩ := along_and.1 fits
  simp only [session, Desk.ofConfig, openBy_createOn adapter host inHost,
    openBy_createOn adapter device onDevice, options]
  cases Settings.ofOptions device.options with
  | error cause => rfl
  | ok S =>
    have seen (r : Residency) :
        (Desk.run (createOn adapter) ⟨opened (engineOn adapter S r), []⟩ calls).1 =
          (Ledger.run S.channel (outputLayout r) { stage := .ready } calls).1 :=
      ((books_opened healthy small S r).run (createOn adapter) fits).1
    have twins : Ledger.Twins .rgb .rgba [] { stage := .ready } { stage := .ready } :=
      ⟨rfl, rfl, rfl, .nil, .nil, .nil⟩
    refine congrArg (List.cons _) ?_
    rw [seen, seen]
    exact twins.run masked

/-- An adapter whose device has nothing to complain about. -/
def quiet : Adapter := { name := "quiet" }

theorem quiet_healthy : quiet.device.Healthy := ⟨nofun, rfl, nofun⟩

/-- A node with streams in one memory. -/
def plainConfig (r : Residency) (channel : Channel) : NodeConfig where
  inputs := (Binding.preset r).inputs
  outputs := (Binding.preset r).outputs
  options := { color := some ⟨12, 200, 99⟩, channel := some channel }

/-- A frame is recolored, the output comes back too early, and is brought out. -/
def shortCalls : List (HostCall Nat) :=
  [.importFrame CpuEngine.column, .importFrame CpuEngine.upperMask,
    .process { micros := 7 } 0 (some 1), .process { micros := 7 } 2 none, .exportFrame 2, .close]

/-- The short run looks the same in either memory. -/
theorem memories_agree_short :
    session (createOn quiet) (plainConfig .cpu .red) shortCalls =
      session (createOn quiet) (plainConfig .gpu .red) shortCalls := by
  have fits : Along (fun prior call => call.Fits quiet.device.limit prior ∧ call.MaskedBy prior) []
      shortCalls := by
    refine ⟨⟨?_, trivial⟩, ⟨?_, trivial⟩, ⟨⟨_, rfl, rfl⟩, ?_⟩, ⟨⟨_, rfl, trivial⟩, nofun⟩,
      ⟨trivial, trivial⟩, ⟨trivial, trivial⟩, trivial⟩
    · exact ⟨by decide, by decide⟩
    · exact ⟨by decide, by decide⟩
    · rintro m ⟨⟩
      exact ⟨_, rfl⟩
  exact @memories_agree quiet quiet_healthy (by decide) (plainConfig .cpu .red)
    (plainConfig .gpu .red) rfl rfl rfl shortCalls fits

/-! ### Weighing by an output -/

/-- **Only one of the nodes refuses to weigh by the alpha of an output.** The node was opened to
weigh by alpha, and an output is named as the mask of the next call, whatever the calls before.
In host memory the call is refused, since color has no alpha. On a healthy device it gives an
output. -/
theorem output_as_mask {adapter : Adapter} (healthy : adapter.device.Healthy)
    (small : adapter.device.limit ≤ 2 ^ 24) {config : NodeConfig} {r : Residency} {S : Settings}
    (valid : config.binding.residency = .ok r) (chosen : Settings.ofOptions config.options = .ok S)
    (alpha : S.channel = .alpha) {calls : List (HostCall Nat)}
    (fits : Along (HostCall.Fits adapter.device.limit) [] calls) {desk : Desk AnyEngine}
    (after : ((Desk.ofConfig (createOn adapter) config).run (createOn adapter) calls).2 = desk)
    (ready : desk.node.stage = .ready) {time : Timestamp} {image mask : Nat}
    (next : (HostCall.process time image (some mask)).Fits adapter.device.limit calls)
    (recolored : ∃ time' image' mask', calls[mask]? = some (.process time' image' mask'))
    (inTime : ∀ last ∈ desk.node.last, last < time) {i o : Resource}
    (image_given : given? desk.held image = some i) (mask_given : given? desk.held mask = some o) :
    (desk.step (createOn adapter) (.process time image (some mask))).1.map Sight.answer =
      some (if r = .cpu then .error (.mask (.missingChannel .alpha .rgb))
        else .ok (.output (some ⟨time, i.extent⟩))) := by
  subst after
  have start : Desk.ofConfig (createOn adapter) config = ⟨opened (engineOn adapter S r), []⟩ := by
    rw [Desk.ofConfig, openBy_createOn adapter config valid, chosen]
  rw [start] at ready inTime image_given mask_given ⊢
  have books := ((books_opened healthy small S r).run (createOn adapter) fits).2
  rw [books.weigh_output (createOn adapter) next recolored ready inTime image_given mask_given, alpha]
  cases r <;> rfl

/-- A color frame is recolored by a gray mask. -/
def firstCalls : List (HostCall Nat) :=
  [.importFrame CpuEngine.column, .importFrame CpuEngine.upperMask,
    .process { micros := 7 } 0 (some 1)]

/-- The frame is recolored once more, by the output. -/
def echo : HostCall Nat := .process { micros := 8 } 0 (some 2)

/-- The echo is refused in host memory, and drawn on a device. -/
theorem output_as_mask_echo :
    (((Desk.ofConfig (createOn quiet) (plainConfig .cpu .alpha)).run (createOn quiet)
      firstCalls).2.step (createOn quiet) echo).1.map Sight.answer =
        some (.error (.mask (.missingChannel .alpha .rgb))) ∧
    (((Desk.ofConfig (createOn quiet) (plainConfig .gpu .alpha)).run (createOn quiet)
      firstCalls).2.step (createOn quiet) echo).1.map Sight.answer =
        some (.ok (.output (some ⟨{ micros := 8 }, CpuEngine.column.extent⟩))) := by
  have fits : Along (HostCall.Fits quiet.device.limit) [] firstCalls :=
    ⟨⟨by decide, by decide⟩, ⟨by decide, by decide⟩, ⟨_, rfl, rfl⟩, trivial⟩
  have next : echo.Fits quiet.device.limit firstCalls := ⟨_, rfl, rfl⟩
  have inTime (last : Timestamp) (h : last ∈ some ({ micros := 7 } : Timestamp)) :
      last < { micros := 8 } := by
    cases h
    decide
  constructor
  · exact @output_as_mask quiet quiet_healthy (by decide) (plainConfig .cpu .alpha) .cpu _ rfl rfl rfl
      firstCalls fits _ rfl rfl _ _ _ next ⟨_, _, _, rfl⟩ inTime _ _ rfl rfl
  · exact @output_as_mask quiet quiet_healthy (by decide) (plainConfig .gpu .alpha) .gpu _ rfl rfl rfl
      firstCalls fits _ rfl rfl _ _ _ next ⟨_, _, _, rfl⟩ inTime _ _ rfl rfl

/-- On a device the echo is drawn, though no alpha ever came in. -/
theorem echo_drawn :
    (session (createOn quiet) (plainConfig .gpu .alpha) (firstCalls ++ [echo])).getLast? =
      some (some ⟨.ok (.output (some ⟨{ micros := 8 }, CpuEngine.column.extent⟩)), .ready, 2⟩) := by
  rfl

end Node

end Tint
