import Tint.Config
import Tint.Engine

/-!
# Nodes

A node takes one stream of images and one of masks and gives one stream of images. It
is opened once, with an executor for the memory of its streams, then takes frames at
strictly increasing times until it is closed for good.

## The model

* `Node` is a record of what the node keeps: the stage of its life, the executor at work,
  the time of the last frame taken and the number of outputs. Nothing in the type ties
  these together; that they agree is a fact about the calls.
* A call gives an answer and the node after it. A check that fails ends the call and
  leaves the node as it is (`attempt`); checks and changes stand in the order in which
  they are made. A crash of the executor ends a call to `process` in the same way, with
  `Fault.crash` as its answer: the node has changed nothing of its own by then.
* A closed node keeps the executor that it shut down, but calls nothing on it.
* `Request` and `Answer` put all calls in one type, and `Node.run` makes a list of calls.
-/

namespace Tint

/-- A node over executors of type `ε`. -/
structure Node (ε : Type) where
  /-- The stage of the node's life. -/
  stage : NodeStage := .uninitialized
  /-- The executor at work. -/
  engine : Option ε := none
  /-- The time of the last frame taken. -/
  last : Option Timestamp := none
  /-- The number of outputs so far. -/
  emitted : Nat := 0
  /-- The executor that was shut down. -/
  retired : Option ε := none

namespace Node

/-- A node that is not yet open. -/
def fresh {ε : Type} : Node ε := {}

variable {ε : Type} [Engine ε]

/-- The memory of the node's streams, while it has an executor. -/
def residency? (n : Node ε) : Option Residency := n.engine.map Engine.residency

/-! ### Checks -/

/-- Go on with what a check gives. A check that fails is the answer, and the node stays as
it is. -/
def attempt {α β : Type} (n : Node ε) (check : Except Fault α)
    (next : α → Except Fault β × Node ε) : Except Fault β × Node ε :=
  match check with
  | .error fault => (.error fault, n)
  | .ok a => next a

/-- A call has to be for the node's stage. -/
def checkStage (n : Node ε) (expected : NodeStage) (call : NodeCall) : Except Fault Unit :=
  if n.stage = expected then .ok () else .error (.node (.wrongStage call n.stage))

/-- The executor of an open node. -/
def readyEngine (n : Node ε) (call : NodeCall) : Except Fault ε := do
  n.checkStage .ready call
  match n.engine with
  | some engine => return engine
  | none => throw (.node (.noEngine call))

/-- A frame has to be in the memory of the node's streams. -/
def checkMemory (expected : Residency) (role : FrameRole) (r : Resource) : Except Fault Unit :=
  if r.residency = expected then .ok ()
  else .error (.node (.wrongMemory role r.residency expected))

/-- The frames of a call have to be in the memory of the node's streams. -/
def checkFrames (expected : Residency) (image : Resource) (mask : Option Resource) :
    Except Fault Unit := do
  checkMemory expected .image image
  match mask with
  | none => return ()
  | some mask => checkMemory expected .mask mask

/-- A time has to be after that of the last frame. -/
def checkTime (last : Option Timestamp) (time : Timestamp) : Except Fault Unit :=
  match last with
  | none => .ok ()
  | some last => if time ≤ last then .error (.node (.notAfter time last)) else .ok ()

/-! ### Opening -/

/-- The node at work with an executor. -/
def work (n : Node ε) (engine : ε) : Node ε := { n with engine := some engine }

/-- An executor has to be for the memory of the streams. -/
def checkEngine (residency : Residency) (engine : ε) : Except Fault Unit :=
  if Engine.residency engine = residency then .ok ()
  else .error (.node (.wrongEngine residency (Engine.residency engine)))

/-- Open the node with an executor, which has to be for the memory of the streams. -/
def openWith (n : Node ε) (streams : Binding) (engine : ε) : Except Fault Unit × Node ε :=
  n.attempt (n.checkStage .uninitialized .opening) fun () =>
    n.attempt (streams.residency.mapError .binding) fun residency =>
      n.attempt (checkEngine residency engine) fun () =>
        (.ok (), { n.work engine with stage := .ready })

/-- What opening a node by a configuration makes: the executor, by `create`, for the
memory and the settings that the configuration asks for. -/
def engineFor (create : Residency → Settings → Except Fault ε) (config : NodeConfig) :
    Except Fault ε := do
  let residency ← config.binding.residency.mapError .binding
  let settings ← (Settings.ofOptions config.options).mapError .options
  create residency settings

/-- Open the node by a configuration. -/
def openBy (create : Residency → Settings → Except Fault ε) (n : Node ε) (config : NodeConfig) :
    Except Fault Unit × Node ε :=
  n.attempt (n.checkStage .uninitialized .opening) fun () =>
    n.attempt (engineFor create config) fun engine => n.openWith config.binding engine

/-- A new node, opened by a configuration. -/
def ofConfig (create : Residency → Settings → Except Fault ε) (config : NodeConfig) :
    Except Fault (Node ε) :=
  match openBy create fresh config with
  | (.ok (), n) => .ok n
  | (.error fault, _) => .error fault

/-! ### Frames -/

/-- The node after its executor took a frame at a time. -/
def take (n : Node ε) (time : Timestamp) : Option Resource → Option (Packet Resource) × Node ε
  | none => (none, { n with last := some time })
  | some out => (some ⟨time, out⟩, { n with last := some time, emitted := n.emitted + 1 })

/-- Recolor an image by a mask at a time. The time is taken only if the executor takes
the frame. -/
def process (n : Node ε) (time : Timestamp) (image : Resource) (mask : Option Resource) :
    Except Fault (Option (Packet Resource)) × Node ε :=
  n.attempt (n.checkStage .ready .processing) fun () =>
    n.attempt (checkTime n.last time) fun () =>
      n.attempt (n.readyEngine .processing) fun engine =>
        n.attempt (checkFrames (Engine.residency engine) image mask) fun () =>
          let (result, engine) := Engine.process engine image mask
          (n.work engine).attempt result fun out =>
            let (packet, n) := (n.work engine).take time out
            (.ok packet, n)

/-- Bring a frame from host memory into the memory of the node's streams. -/
def importFrame (n : Node ε) (frame : Frame) : Except Fault Resource × Node ε :=
  n.attempt (n.readyEngine .importing) fun engine =>
    Engine.lift n.work (Engine.importFrame engine frame)

/-- Bring a frame into host memory. -/
def exportFrame (n : Node ε) (frame : Resource) : Except Fault Frame × Node ε :=
  n.attempt (n.readyEngine .exporting) fun engine =>
    Engine.lift n.work (Engine.exportFrame engine frame)

/-- Close the node and shut its executor down. The node is closed also if that fails, and
closing again does nothing more. -/
def close (n : Node ε) : Except Fault Unit × Node ε :=
  let closed := { n with stage := .closed, engine := none }
  match n.engine with
  | none => (.ok (), closed)
  | some engine =>
    Engine.lift (fun engine => { closed with retired := some engine }) (Engine.shutdown engine)

/-! ### Runs -/

/-- A call on a node. -/
inductive Request (ε : Type) where
  /-- Open by a configuration. -/
  | openBy (config : NodeConfig)
  /-- Open with an executor. -/
  | openWith (streams : Binding) (engine : ε)
  /-- Take a frame in. -/
  | importFrame (frame : Frame)
  /-- Recolor. -/
  | process (time : Timestamp) (image : Resource) (mask : Option Resource)
  /-- Bring a frame out. -/
  | exportFrame (frame : Resource)
  /-- Close. -/
  | close

/-- What a call gives. -/
inductive Answer where
  /-- Nothing but success. -/
  | done
  /-- A frame in the memory of the streams. -/
  | imported (frame : Resource)
  /-- An output, or none. -/
  | output (packet : Option (Packet Resource))
  /-- A frame in host memory. -/
  | exported (frame : Frame)

/-- The answer of a call. -/
def answer {α β : Type} (wrap : α → Answer) (result : Except Fault α × β) :
    Except Fault Answer × β :=
  (result.1.map wrap, result.2)

/-- Make a call. -/
def handle (create : Residency → Settings → Except Fault ε) (n : Node ε) :
    Request ε → Except Fault Answer × Node ε
  | .openBy config => answer (fun _ => .done) (openBy create n config)
  | .openWith streams engine => answer (fun _ => .done) (n.openWith streams engine)
  | .importFrame frame => answer .imported (n.importFrame frame)
  | .process time image mask => answer .output (n.process time image mask)
  | .exportFrame frame => answer .exported (n.exportFrame frame)
  | .close => answer (fun _ => .done) n.close

/-- Make calls in order: their answers, and the node after them. -/
def run (create : Residency → Settings → Except Fault ε) (n : Node ε) :
    List (Request ε) → List (Except Fault Answer) × Node ε
  | [] => ([], n)
  | request :: rest =>
    let (first, n) := n.handle create request
    let (others, n) := run create n rest
    (first :: others, n)

end Node

end Tint
