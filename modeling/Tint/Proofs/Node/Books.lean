import Tint.Proofs.Node.Desk
import Tint.Proofs.Node.Stages

/-!
# Keeping the books of a node

A ledger is right about a node whose executor answers as forecast. One call on the node comes
to what the ledger says of it (`handle_entered`): there is a lemma for each call that an open
node takes, and one for all calls on a node that is not open. What holds of one call holds of
any number of them (`Books.run`), if every call fits the calls before it.

## The model

* `Working` and `Ledger.Accounts` tie an executor to its forecast and a node to its ledger.
* `HostCall.Fits` is what has to hold of a call, from the calls before it.
* `Books` ties a desk to its ledger.
-/

namespace Tint

namespace Node

/-! ### One call -/

section

variable {ε : Type} [Engine ε] {create : Residency → Settings → Except Fault ε}
  {channel : Channel} {outputs : PixelLayout} {limit : Nat}
  {F : Forecast ε channel outputs limit} {n : Node ε} {l : Ledger} {P : Resource → Sheet → Prop}

/-- A node is either open with an executor at work, or it has none. Frames are there as its
executor shows them. -/
inductive Working (F : Forecast ε channel outputs limit) (n : Node ε) :
    (Resource → Sheet → Prop) → Prop where
  /-- The node is open. -/
  | ready {w : F.World} {e : ε} (stage : n.stage = .ready) (engine : n.engine = some e)
    (at_work : F.At w e) : Working F n (F.Shows w)
  /-- The node is not open, and frames are not looked at. -/
  | idle (P : Resource → Sheet → Prop) (stage : n.stage ≠ .ready) (engine : n.engine = none) :
    Working F n P

/-- A ledger is right about a node. -/
structure Ledger.Accounts (l : Ledger) (n : Node ε) : Prop where
  /-- The stage of the node. -/
  stage : n.stage = l.stage
  /-- The time of the last frame taken. -/
  last : n.last = l.last
  /-- The number of outputs. -/
  emitted : n.emitted = l.emitted

/-- A call came to what the ledger says. -/
structure Entered (F : Forecast ε channel outputs limit) (l : Ledger)
    (P : Resource → Sheet → Prop) (call : HostCall Sheet)
    (done : Except Fault Answer × Node ε) : Prop where
  /-- The answer is that of the ledger. -/
  view : done.1.map Answer.view = l.answer channel call
  /-- The ledger stays right. -/
  accounts : (l.entered call (l.answer channel call)).Accounts done.2
  /-- Frames that were there are there still, and so is what the call gave out. -/
  shown : ∃ P', P ≤ P' ∧ Working F done.2 P' ∧
    Option.Rel P' (frame? done.1) (Ledger.sheet? outputs call (l.answer channel call))

/-- What is asked of a call: frames taken in are small enough, and images have colors. -/
def HostCall.Fair (outputs : PixelLayout) (limit : Nat) : HostCall Sheet → Prop
  | .importFrame f => f.extent.Within limit
  | .process _ image _ => image.layout = .rgb ∨ image.layout = outputs
  | .exportFrame _ | .close => True

omit [Engine ε] in
theorem Ledger.answer_late (ready : l.stage = .ready) {time last : Timestamp}
    (kept : l.last = some last) (late : time ≤ last) (image : Sheet) (mask : Option Sheet) :
    l.answer channel (.process time image mask) = .error (.node (.notAfter time last)) := by
  have refused : checkTime (some last) time = .error (.node (.notAfter time last)) := if_pos late
  simp only [answer, whenReady, if_pos ready, kept, refused]
  rfl

omit [Engine ε] in
theorem Ledger.answer_inTime (ready : l.stage = .ready) {time : Timestamp}
    (inTime : ∀ last ∈ l.last, last < time) (image : Sheet) (mask : Option Sheet) :
    l.answer channel (.process time image mask) = weighed channel time image mask := by
  simp only [answer, whenReady, if_pos ready, checkTime_ok inTime]
  rfl

theorem entered_fault {P' : Resource → Sheet → Prop} (accounts : l.Accounts n) (kept : P ≤ P')
    (working : Working F n P') {call : HostCall Sheet} {fault : Fault}
    (refused : l.answer channel call = .error fault) : Entered F l P call (.error fault, n) := by
  refine ⟨refused.symm, ?_, P', kept, working, ?_⟩
  · rw [refused]
    cases call with
    | close => cases refused
    | importFrame f | exportFrame r | process time image mask => exact accounts
  · rw [refused]
    cases call <;> exact .none

/-- A node that is not open refuses all calls but one. -/
theorem entered_idle (accounts : l.Accounts n) (idle : n.stage ≠ .ready) (engine : n.engine = none)
    {call : HostCall Resource} {call' : HostCall Sheet} (same : call.Rel P call') :
    Entered F l P call' (n.handle create call.request) := by
  have shut : l.stage ≠ .ready := accounts.stage ▸ idle
  have working : Working F n P := .idle P idle engine
  have wrong (asked : NodeCall) (stage : asked.stage = .ready) : n.stage ≠ asked.stage := by
    rw [stage]
    exact idle
  cases same with
  | importFrame f =>
    rw [HostCall.request, handle_wrongStage rfl (wrong .importing rfl), accounts.stage]
    exact entered_fault accounts (le_refl P) working (if_neg shut)
  | unmasked time h | masked time h weights =>
    rw [HostCall.request, handle_wrongStage rfl (wrong .processing rfl), accounts.stage]
    exact entered_fault accounts (le_refl P) working (if_neg shut)
  | exportFrame h =>
    rw [HostCall.request, handle_wrongStage rfl (wrong .exporting rfl), accounts.stage]
    exact entered_fault accounts (le_refl P) working (if_neg shut)
  | close =>
    rw [HostCall.request, handle_close_none engine]
    exact ⟨rfl, ⟨rfl, accounts.last, accounts.emitted⟩, P, le_refl P, .idle P nofun engine, .none⟩

section

variable {w : F.World} {e : ε} (ready : n.stage = .ready) (engine : n.engine = some e)
  (at_work : F.At w e) (accounts : l.Accounts n)

include ready engine at_work accounts

theorem entered_importFrame {f : Frame} (within : f.extent.Within limit) :
    Entered F l (F.Shows w) (.importFrame f) (n.handle create (.importFrame f)) := by
  obtain ⟨r, e', w', done, at_work', kept, shown⟩ := F.importFrame at_work within
  have answer : l.answer channel (.importFrame f) = .ok (.imported f.extent) :=
    if_pos (accounts.stage ▸ ready)
  rw [handle_importFrame ready engine, done]
  refine ⟨?_, ?_, F.Shows w', kept, .ready ready rfl at_work', ?_⟩
  · rw [answer]
    exact congrArg (Except.ok ∘ View.imported) (F.extent shown)
  · rw [answer]
    exact ⟨accounts.stage, accounts.last, accounts.emitted⟩
  · rw [answer]
    exact .some shown

theorem entered_exportFrame {r : Resource} {s : Sheet} (shown : F.Shows w r s) :
    Entered F l (F.Shows w) (.exportFrame s) (n.handle create (.exportFrame r)) := by
  obtain ⟨f, e', w', done, at_work', kept, extent⟩ := F.exportFrame at_work shown
  have answer : l.answer channel (.exportFrame s) = .ok (.exported s.extent) :=
    if_pos (accounts.stage ▸ ready)
  rw [handle_exportFrame ready engine, done]
  refine ⟨?_, ?_, F.Shows w', kept, .ready ready rfl at_work', ?_⟩
  · rw [answer]
    exact congrArg (Except.ok ∘ View.exported) extent
  · rw [answer]
    exact ⟨accounts.stage, accounts.last, accounts.emitted⟩
  · rw [answer]
    exact .none

theorem entered_late {time last : Timestamp} (kept : n.last = some last) (late : time ≤ last)
    (image : Resource) (image' : Sheet) (mask : Option Resource) (mask' : Option Sheet) :
    Entered F l (F.Shows w) (.process time image' mask')
      (n.handle create (.process time image mask)) := by
  rw [handle_process_late ready kept late]
  exact entered_fault accounts (le_refl _) (.ready ready engine at_work)
    (Ledger.answer_late (accounts.stage ▸ ready) (accounts.last ▸ kept) late image' mask')

/-- An open node takes an image without a mask. -/
theorem entered_unmasked {time : Timestamp} (inTime : ∀ last ∈ n.last, last < time)
    {image : Resource} {image' : Sheet} (shown : F.Shows w image image') :
    Entered F l (F.Shows w) (.process time image' none)
      (n.handle create (.process time image none)) := by
  obtain ⟨e', w', done, at_work', kept⟩ := F.unmasked at_work shown
  have answer : l.answer channel (.process time image' none) = .ok (.output none) :=
    Ledger.answer_inTime (accounts.stage ▸ ready) (accounts.last ▸ inTime) image' none
  rw [handle_process ready engine inTime (F.residency at_work shown) (by rintro _ ⟨⟩), done]
  refine ⟨?_, ?_, F.Shows w', kept, .ready ready rfl at_work', ?_⟩
  · rw [answer]
    rfl
  · rw [answer]
    exact ⟨accounts.stage, rfl, accounts.emitted⟩
  · rw [answer]
    exact .none

/-- An open node recolors an image by a mask that has the channel, and refuses any other. -/
theorem entered_masked {time : Timestamp} (inTime : ∀ last ∈ n.last, last < time)
    {image mask : Resource} {image' mask' : Sheet} (shown : F.Shows w image image')
    (colored : image'.layout = .rgb ∨ image'.layout = outputs) (weights : F.Shows w mask mask') :
    Entered F l (F.Shows w) (.process time image' (some mask'))
      (n.handle create (.process time image (some mask))) := by
  have inMemory : ∀ m ∈ some mask, m.residency = Engine.residency e := by
    rintro m ⟨⟩
    exact F.residency at_work weights
  have answer : l.answer channel (.process time image' (some mask')) =
      Ledger.weighed channel time image' (some mask') :=
    Ledger.answer_inTime (accounts.stage ▸ ready) (accounts.last ▸ inTime) image' (some mask')
  rw [handle_process ready engine inTime (F.residency at_work shown) inMemory]
  cases plane : maskPlane channel mask'.layout with
  | error cause =>
    obtain ⟨e', w', done, at_work', kept⟩ := F.refused at_work shown colored weights plane
    simp only [Ledger.weighed, plane] at answer
    rw [done]
    have kept_accounts : l.Accounts (n.work e') :=
      ⟨accounts.stage, accounts.last, accounts.emitted⟩
    exact entered_fault kept_accounts kept (.ready ready rfl at_work') answer
  | ok plane =>
    obtain ⟨out, e', w', done, at_work', kept, given⟩ := F.drawn at_work shown colored weights plane
    simp only [Ledger.weighed, plane] at answer
    have extent := F.extent given
    rw [done]
    refine ⟨?_, ?_, F.Shows w', kept, .ready ready rfl at_work', ?_⟩
    · rw [answer]
      exact congrArg (fun extent => Except.ok (View.output (some ⟨time, extent⟩))) extent
    · rw [answer]
      exact ⟨accounts.stage, rfl, congrArg (· + 1) accounts.emitted⟩
    · rw [answer]
      exact .some given

omit ready in
theorem entered_close : Entered F l (F.Shows w) .close (n.handle create .close) := by
  obtain ⟨e', done⟩ := F.shutdown at_work
  rw [handle_close_some engine, done]
  exact ⟨rfl, ⟨rfl, accounts.last, accounts.emitted⟩, F.Shows w, le_refl _,
    .idle _ nofun rfl, .none⟩

end

/-- **A call comes to what the ledger says.** -/
theorem handle_entered (accounts : l.Accounts n) (working : Working F n P)
    {call : HostCall Resource} {call' : HostCall Sheet} (same : call.Rel P call')
    (fair : call'.Fair outputs limit) : Entered F l P call' (n.handle create call.request) := by
  cases working with
  | idle P stage engine => exact entered_idle accounts stage engine same
  | ready ready engine at_work =>
    cases same with
    | importFrame f => exact entered_importFrame ready engine at_work accounts fair
    | exportFrame shown => exact entered_exportFrame ready engine at_work accounts shown
    | close => exact entered_close engine at_work accounts
    | unmasked time shown =>
      obtain ⟨inTime, -⟩ | ⟨last, kept, late, -⟩ := checkTime_cases n.last time
      · exact entered_unmasked ready engine at_work accounts inTime shown
      · exact entered_late ready engine at_work accounts kept late _ _ _ _
    | masked time shown weights =>
      obtain ⟨inTime, -⟩ | ⟨last, kept, late, -⟩ := checkTime_cases n.last time
      · exact entered_masked ready engine at_work accounts inTime shown fair weights
      · exact entered_late ready engine at_work accounts kept late _ _ _ _

end

/-! ### Runs -/

/-- Frames from a call: images may be recolored. -/
def HostCall.Colored : HostCall Nat → Prop
  | .importFrame f => f.layout = .rgb
  | .process _ _ _ => True
  | .exportFrame _ | .close => False

/-- What is asked of a call after the calls `prior`: frames taken in have sides of at most
`limit`, and an image was taken in as color or came of recoloring. -/
def HostCall.Fits (limit : Nat) (prior : List (HostCall Nat)) : HostCall Nat → Prop
  | .importFrame f => f.extent.Within limit
  | .process _ image _ => ∃ source, prior[image]? = some source ∧ source.Colored
  | .exportFrame _ | .close => True

/-- `P` holds of every call, and the calls before it. -/
def Along (P : List (HostCall Nat) → HostCall Nat → Prop) (prior : List (HostCall Nat)) :
    List (HostCall Nat) → Prop
  | [] => True
  | call :: rest => P prior call ∧ Along P (prior ++ [call]) rest

/-- What a call may have given out. -/
def Gave (outputs : PixelLayout) : HostCall Nat → Option Sheet → Prop
  | .importFrame f, given => ∀ s ∈ given, s = ⟨f.extent, f.layout⟩
  | .process _ _ _, given => ∀ s ∈ given, s.layout = outputs
  | .exportFrame _, given | .close, given => given = none

section

variable {ε : Type} [Engine ε] {channel : Channel} {outputs : PixelLayout} {limit : Nat}
  {F : Forecast ε channel outputs limit} {d : Desk ε} {l : Ledger} {prior : List (HostCall Nat)}

/-- A ledger is right about a desk on which the calls `prior` were made. -/
structure Books (F : Forecast ε channel outputs limit) (prior : List (HostCall Nat))
    (d : Desk ε) (l : Ledger) : Prop where
  /-- The ledger is right about the node. -/
  accounts : l.Accounts d.node
  /-- Frames are there as the ledger says. -/
  shown : ∃ P, Working F d.node P ∧ List.Forall₂ (Option.Rel P) d.held l.held
  /-- The ledger says what the calls may have given out. -/
  gave : List.Forall₂ (Gave outputs) prior l.held

theorem gave_given? {held : List (Option Sheet)} (gave : List.Forall₂ (Gave outputs) prior held)
    {i : Nat} {source : HostCall Nat} (made : prior[i]? = some source) {s : Sheet}
    (there : given? held i = some s) : Gave outputs source (some s) := by
  induction gave generalizing i with
  | nil => cases made
  | @cons call given prior held first rest ih =>
    cases i with
    | zero =>
      cases made
      obtain rfl : given = some s := there
      exact first
    | succ i => exact ih made there

theorem colored_of_fits {held : List (Option Sheet)} (gave : List.Forall₂ (Gave outputs) prior held)
    {time : Timestamp} {image : Nat} {mask : Option Nat}
    (fits : (HostCall.process time image mask).Fits limit prior) {s : Sheet}
    (there : given? held image = some s) : s.layout = .rgb ∨ s.layout = outputs := by
  obtain ⟨source, made, colored⟩ := fits
  have given := gave_given? gave made there
  cases source with
  | importFrame f =>
    obtain rfl := given s rfl
    exact .inl colored
  | process => exact .inr (given s rfl)
  | exportFrame | close => cases colored

theorem HostCall.Fits.fair {call : HostCall Nat} {held : List (Option Sheet)}
    {named : HostCall Sheet} (gave : List.Forall₂ (Gave outputs) prior held)
    (fits : call.Fits limit prior) (resolved : call.resolve? held = some named) :
    named.Fair outputs limit := by
  cases rel_of_resolve? resolved with
  | importFrame f => exact fits
  | exportFrame | close => trivial
  | unmasked time there | masked time there => exact colored_of_fits gave fits there

/-- What is given out is what the call may have given out. -/
theorem gave_sheet? {call : HostCall Nat} {held : List (Option Sheet)} {named : HostCall Sheet}
    (resolved : call.resolve? held = some named) (answer : Except Fault View) :
    Gave outputs call (Ledger.sheet? outputs named answer) := by
  cases HostCall.rel_of_resolve? resolved with
  | importFrame f =>
    cases answer with
    | error fault => nofun
    | ok view =>
      rintro s ⟨⟩
      rfl
  | exportFrame | close => cases answer <;> rfl
  | unmasked time there | masked time there =>
    intro s given
    cases answer with
    | error fault => cases given
    | ok view =>
      cases view with
      | output packet =>
        obtain ⟨p, -, rfl⟩ := Option.map_eq_some_iff.1 given
        rfl
      | done | imported | exported => cases given

theorem gave_none (outputs : PixelLayout) (call : HostCall Nat) : Gave outputs call none := by
  cases call with
  | importFrame | process => nofun
  | exportFrame | close => rfl

theorem Desk.step_some (create : Residency → Settings → Except Fault ε) {call : HostCall Nat}
    {named : HostCall Resource} (here : call.resolve? d.held = some named) :
    d.step create call =
      (some ⟨(d.node.handle create named.request).1.map Answer.view,
        (d.node.handle create named.request).2.stage,
        (d.node.handle create named.request).2.emitted⟩,
      ⟨(d.node.handle create named.request).2,
        d.held ++ [frame? (d.node.handle create named.request).1]⟩) := by
  simp only [Desk.step, here]

/-- **A call on a desk is seen as the ledger says.** -/
theorem Books.step (books : Books F prior d l) (create : Residency → Settings → Except Fault ε)
    {call : HostCall Nat} (fits : call.Fits limit prior) :
    (d.step create call).1 = (l.step channel outputs call).1 ∧
      Books F (prior ++ [call]) (d.step create call).2 (l.step channel outputs call).2 := by
  obtain ⟨accounts, ⟨P, working, shown⟩, gave⟩ := books
  obtain ⟨here, there⟩ | ⟨named, named', here, there, related⟩ := call.resolve?_cases shown
  · simp only [Desk.step, Ledger.step, here, there, true_and]
    refine ⟨⟨accounts.stage, accounts.last, accounts.emitted⟩, ⟨P, working, ?_⟩, ?_⟩
    · exact List.rel_append shown (.cons .none .nil)
    · exact List.rel_append gave (.cons (gave_none outputs call) .nil)
  · have entered : Entered F l P named' (d.node.handle create named.request) :=
      handle_entered accounts working related (fits.fair gave there)
    obtain ⟨view, after, P', kept, working', given⟩ := entered
    rw [Desk.step_some create here]
    simp only [Ledger.step, there, view, after.stage, after.emitted, true_and]
    refine ⟨⟨after.stage, after.last, after.emitted⟩, ⟨P', working', ?_⟩, ?_⟩
    · exact List.rel_append (shown.imp fun _ _ => rel_mono kept) (.cons given .nil)
    · exact List.rel_append gave (.cons (gave_sheet? there _) .nil)

/-- **Calls on a desk are seen as the ledger says**, for as long as they go on. -/
theorem Books.run (books : Books F prior d l) (create : Residency → Settings → Except Fault ε)
    {calls : List (HostCall Nat)} (fits : Along (HostCall.Fits limit) prior calls) :
    (d.run create calls).1 = (l.run channel outputs calls).1 ∧
      Books F (prior ++ calls) (d.run create calls).2 (l.run channel outputs calls).2 := by
  induction calls generalizing prior d l with
  | nil =>
    rw [List.append_nil]
    exact ⟨rfl, books⟩
  | cons call rest ih =>
    obtain ⟨first, later⟩ := fits
    obtain ⟨sight, books⟩ := books.step create first
    obtain ⟨sights, books⟩ := ih books later
    rw [List.append_assoc] at books
    exact ⟨congrArg₂ List.cons sight sights, books⟩

/-- **An output weighs as the layout of outputs does.** On an open desk, a call that comes in
time and names an output as its mask gives another output if that layout has the channel, and
is refused else. -/
theorem Books.weigh_output (books : Books F prior d l)
    (create : Residency → Settings → Except Fault ε) {time : Timestamp} {image mask : Nat}
    (fits : (HostCall.process time image (some mask)).Fits limit prior)
    (recolored : ∃ time' image' mask', prior[mask]? = some (.process time' image' mask'))
    (ready : d.node.stage = .ready) (inTime : ∀ last ∈ d.node.last, last < time)
    {i o : Resource} (image_given : given? d.held image = some i)
    (mask_given : given? d.held mask = some o) :
    (d.step create (.process time image (some mask))).1.map Sight.answer =
      some (Ledger.weighed channel time ⟨i.extent, outputs⟩ (some ⟨o.extent, outputs⟩)) := by
  have sight := (books.step create fits).1
  obtain ⟨accounts, ⟨P, working, shown⟩, gave⟩ := books
  cases working with
  | idle P shut engine => exact absurd ready shut
  | ready _ engine at_work =>
    obtain ⟨s, image_there, image_shown⟩ := there_of_rel (given?_rel shown image) image_given
    obtain ⟨t, mask_there, -⟩ := there_of_rel (given?_rel shown mask) mask_given
    obtain ⟨time', image', mask', made⟩ := recolored
    have layout : t.layout = outputs := gave_given? gave made mask_there t rfl
    have named : (HostCall.process time image (some mask)).resolve? l.held =
        some (.process time s (some t)) := by
      simp only [HostCall.resolve?, image_there, mask_there]
      rfl
    have answer : l.answer channel (.process time s (some t)) =
        Ledger.weighed channel time s (some t) :=
      Ledger.answer_inTime (accounts.stage ▸ ready) (accounts.last ▸ inTime) s (some t)
    rw [sight]
    simp only [Ledger.step, named, answer, Option.map_some, Ledger.weighed, layout,
      F.extent image_shown]

end

end Node

end Tint
