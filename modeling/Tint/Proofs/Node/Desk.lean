import Mathlib.Data.List.Forall2
import Tint.Node
import Tint.Proofs.Engine.Forecast

/-!
# Nodes seen from host memory

Someone who works with frames in host memory sees of a node its answers, its stage and the
number of its outputs, and cannot see where it keeps its frames. On a `Desk`, frames are named
by the number of the call that gave them out, so that the same calls can be made on any node.

What is seen can be told without the node. A `Ledger` keeps the sizes and layouts of the frames
that were given out, and knows the answer of every call from them.

## The model

* `HostCall φ` is a call on an open node that names its frames by values of type `φ`. A call
  that names a frame that is not there is not made.
* `Sight` is what is seen of a call.
* `Desk.run` makes calls on a node, and `Ledger.run` enters them without one.
* `session` is everything that is seen of a node, from its opening on.
-/

namespace Tint

namespace Node

/-! ### Calls and what is seen of them -/

/-- A call on an open node, with frames of type `φ`. -/
inductive HostCall (φ : Type) where
  /-- Take a frame in. -/
  | importFrame (frame : Frame)
  /-- Recolor. -/
  | process (time : Timestamp) (image : φ) (mask : Option φ)
  /-- Bring a frame out. -/
  | exportFrame (frame : φ)
  /-- Close. -/
  | close

/-- An answer, with frames by their sizes. -/
inductive View where
  /-- Nothing but success. -/
  | done
  /-- A frame was taken in. -/
  | imported (extent : Extent)
  /-- There is an output, or none. -/
  | output (packet : Option (Packet Extent))
  /-- A frame was brought out. -/
  | exported (extent : Extent)
deriving DecidableEq, Repr

/-- What is seen of a call. -/
structure Sight where
  /-- The answer. -/
  answer : Except Fault View
  /-- The stage of the node's life after the call. -/
  stage : NodeStage
  /-- The number of outputs so far. -/
  emitted : Nat

/-- What is seen of an answer. -/
def Answer.view : Answer → View
  | .done => .done
  | .imported r => .imported r.extent
  | .output packet => .output (packet.map (·.map Resource.extent))
  | .exported f => .exported f.extent

/-- The frame that an answer gives out. -/
def frame? : Except Fault Answer → Option Resource
  | .ok (.imported r) => some r
  | .ok (.output packet) => packet.map Packet.payload
  | _ => none

/-- The frame that call number `i` gave out. -/
def given? {φ : Type} (held : List (Option φ)) (i : Nat) : Option φ := held[i]?.join

namespace HostCall

variable {φ ψ ε : Type}

/-- The call with the frames that it names, if they are all there. -/
def resolve? (held : List (Option φ)) : HostCall Nat → Option (HostCall φ)
  | importFrame f => some (importFrame f)
  | process time image mask => do
    let image ← given? held image
    match mask with
    | none => return process time image none
    | some mask => return process time image (some (← given? held mask))
  | exportFrame i => exportFrame <$> given? held i
  | close => some close

/-- The call as a request to a node. -/
def request : HostCall Resource → Request ε
  | importFrame f => .importFrame f
  | process time image mask => .process time image mask
  | exportFrame r => .exportFrame r
  | close => .close

/-- The same call, with frames that `R` relates. -/
inductive Rel (R : φ → ψ → Prop) : HostCall φ → HostCall ψ → Prop where
  /-- The same frame is taken in. -/
  | importFrame (f : Frame) : Rel R (importFrame f) (importFrame f)
  /-- Without a mask. -/
  | unmasked {image : φ} {image' : ψ} (time : Timestamp) (h : R image image') :
    Rel R (process time image none) (process time image' none)
  /-- With a mask. -/
  | masked {image mask : φ} {image' mask' : ψ} (time : Timestamp) (h : R image image')
    (weights : R mask mask') :
    Rel R (process time image (some mask)) (process time image' (some mask'))
  /-- Related frames are brought out. -/
  | exportFrame {r : φ} {r' : ψ} (h : R r r') : Rel R (exportFrame r) (exportFrame r')
  /-- Both close. -/
  | close : Rel R close close

end HostCall

/-- A node and the frames that it gave out, by the number of the call. -/
structure Desk (ε : Type) where
  /-- The node. -/
  node : Node ε
  /-- What every call gave out. -/
  held : List (Option Resource) := []

/-- Make a call, unless it names a frame that is not there. -/
def Desk.step {ε : Type} [Engine ε] (create : Residency → Settings → Except Fault ε)
    (d : Desk ε) (call : HostCall Nat) : Option Sight × Desk ε :=
  match call.resolve? d.held with
  | none => (none, { d with held := d.held ++ [none] })
  | some call =>
    let (answer, node) := d.node.handle create call.request
    (some ⟨answer.map Answer.view, node.stage, node.emitted⟩,
      ⟨node, d.held ++ [frame? answer]⟩)

/-- Make calls in order: what is seen of them, and the desk after them. -/
def Desk.run {ε : Type} [Engine ε] (create : Residency → Settings → Except Fault ε)
    (d : Desk ε) : List (HostCall Nat) → List (Option Sight) × Desk ε
  | [] => ([], d)
  | call :: rest =>
    let (sight, d) := d.step create call
    let (sights, d) := run create d rest
    (sight :: sights, d)

/-- A node that a configuration was tried on. -/
def Desk.ofConfig {ε : Type} [Engine ε] (create : Residency → Settings → Except Fault ε)
    (config : NodeConfig) : Desk ε :=
  { node := (openBy create fresh config).2 }

/-- Open a node by a configuration and make calls on it: what is seen. -/
def session {ε : Type} [Engine ε] (create : Residency → Settings → Except Fault ε)
    (config : NodeConfig) (calls : List (HostCall Nat)) : List (Option Sight) :=
  let desk := Desk.ofConfig create config
  some ⟨(openBy create fresh config).1.map fun _ => .done, desk.node.stage, desk.node.emitted⟩ ::
    (desk.run create calls).1

/-! ### Ledgers -/

/-- What is known of a node and of the frames that it gave out. -/
structure Ledger where
  /-- The stage of the node's life. -/
  stage : NodeStage := .uninitialized
  /-- The time of the last frame taken. -/
  last : Option Timestamp := none
  /-- The number of outputs so far. -/
  emitted : Nat := 0
  /-- What every call gave out. -/
  held : List (Option Sheet) := []

namespace Ledger

/-- The answer of a call that is for an open node. -/
def whenReady (l : Ledger) (call : NodeCall) (answer : Except Fault View) : Except Fault View :=
  if l.stage = .ready then answer else .error (.node (.wrongStage call l.stage))

/-- What recoloring comes to, for a frame that comes in time. -/
def weighed (channel : Channel) (time : Timestamp) (image : Sheet) :
    Option Sheet → Except Fault View
  | none => .ok (.output none)
  | some mask =>
    match maskPlane channel mask.layout with
    | .error cause => .error (.mask cause)
    | .ok _ => .ok (.output (some ⟨time, image.extent⟩))

/-- The answer of a call. -/
def answer (channel : Channel) (l : Ledger) : HostCall Sheet → Except Fault View
  | .importFrame f => l.whenReady .importing (.ok (.imported f.extent))
  | .process time image mask =>
    l.whenReady .processing do
      checkTime l.last time
      weighed channel time image mask
  | .exportFrame s => l.whenReady .exporting (.ok (.exported s.extent))
  | .close => .ok .done

/-- What a call gives out, if outputs have the layout `outputs`. -/
def sheet? (outputs : PixelLayout) : HostCall Sheet → Except Fault View → Option Sheet
  | .importFrame f, .ok _ => some ⟨f.extent, f.layout⟩
  | .process _ _ _, .ok (.output packet) => packet.map fun p => ⟨p.payload, outputs⟩
  | _, _ => none

/-- The ledger after a call with an answer, apart from what the call gives out. -/
def entered (l : Ledger) : HostCall Sheet → Except Fault View → Ledger
  | .process time _ _, .ok (.output packet) =>
    { l with last := some time, emitted := l.emitted + packet.toList.length }
  | .close, _ => { l with stage := .closed }
  | _, _ => l

/-- Enter a call. -/
def step (channel : Channel) (outputs : PixelLayout) (l : Ledger) (call : HostCall Nat) :
    Option Sight × Ledger :=
  match call.resolve? l.held with
  | none => (none, { l with held := l.held ++ [none] })
  | some call =>
    let answer := l.answer channel call
    let after := l.entered call answer
    (some ⟨answer, after.stage, after.emitted⟩,
      { after with held := l.held ++ [sheet? outputs call answer] })

/-- Enter calls in order. -/
def run (channel : Channel) (outputs : PixelLayout) (l : Ledger) :
    List (HostCall Nat) → List (Option Sight) × Ledger
  | [] => ([], l)
  | call :: rest =>
    let (sight, l) := l.step channel outputs call
    let (sights, l) := run channel outputs l rest
    (sight :: sights, l)

end Ledger

/-! ### Frames that are there -/

section

variable {φ ψ : Type} {P P' : φ → ψ → Prop} {held : List (Option φ)} {held' : List (Option ψ)}

theorem rel_mono (h : P ≤ P') {a : Option φ} {b : Option ψ} (rel : Option.Rel P a b) :
    Option.Rel P' a b := by
  cases rel with
  | some related => exact .some (h _ _ related)
  | none => exact .none

theorem given?_rel (h : List.Forall₂ (Option.Rel P) held held') (i : Nat) :
    Option.Rel P (given? held i) (given? held' i) := by
  induction h generalizing i with
  | nil => exact .none
  | cons first rest ih =>
    cases i with
    | zero => exact first
    | succ i => exact ih i

theorem there_of_rel {a : φ} {o : Option φ} {o' : Option ψ} (h : Option.Rel P o o')
    (there : o = some a) : ∃ b, o' = some b ∧ P a b := by
  cases h with
  | none => cases there
  | some related =>
    cases there
    exact ⟨_, rfl, related⟩

/-- A call that can be made on one side can be made on the other. -/
theorem HostCall.resolve?_rel (h : List.Forall₂ (Option.Rel P) held held') (call : HostCall Nat) :
    Option.Rel (HostCall.Rel P) (call.resolve? held) (call.resolve? held') := by
  cases call with
  | importFrame f => exact .some (.importFrame f)
  | close => exact .some .close
  | exportFrame i =>
    have there := given?_rel h i
    simp only [resolve?]
    generalize given? held i = r, given? held' i = r' at there
    cases there with
    | none => exact .none
    | some related => exact .some (.exportFrame related)
  | process time image mask =>
    have there := given?_rel h image
    simp only [resolve?]
    generalize given? held image = r, given? held' image = r' at there
    cases there with
    | none => exact .none
    | some related =>
      cases mask with
      | none => exact .some (.unmasked time related)
      | some mask =>
        have there := given?_rel h mask
        simp only [bind, Option.bind]
        generalize given? held mask = m, given? held' mask = m' at there
        cases there with
        | none => exact .none
        | some weights => exact .some (.masked time related weights)

theorem HostCall.resolve?_cases (h : List.Forall₂ (Option.Rel P) held held') (call : HostCall Nat) :
    (call.resolve? held = none ∧ call.resolve? held' = none) ∨
      ∃ named named', call.resolve? held = some named ∧ call.resolve? held' = some named' ∧
        named.Rel P named' := by
  have same := call.resolve?_rel h
  generalize call.resolve? held = a, call.resolve? held' = b at same
  cases same with
  | none => exact .inl ⟨rfl, rfl⟩
  | some related => exact .inr ⟨_, _, rfl, rfl, related⟩

/-- A call that can be made names frames that are there. -/
theorem HostCall.rel_of_resolve? {call : HostCall Nat} {named : HostCall φ}
    (resolved : call.resolve? held = some named) :
    call.Rel (fun i r => given? held i = some r) named := by
  cases call with
  | importFrame f =>
    cases resolved
    exact .importFrame f
  | close =>
    cases resolved
    exact .close
  | exportFrame i =>
    obtain ⟨r, there, rfl⟩ := Option.map_eq_some_iff.1 resolved
    exact .exportFrame there
  | process time image mask =>
    obtain ⟨r, there, rest⟩ := Option.bind_eq_some_iff.1 resolved
    cases mask with
    | none =>
      cases rest
      exact .unmasked time there
    | some mask =>
      obtain ⟨m, weights, rest⟩ := Option.bind_eq_some_iff.1 rest
      cases rest
      exact .masked time there weights

end

end Node

end Tint
