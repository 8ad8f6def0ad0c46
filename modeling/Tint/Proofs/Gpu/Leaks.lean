import Tint.Proofs.Gpu.Healthy

/-!
# What a renderer leaves on its device

A renderer makes things on its device: the uniform of its program, and for every pass the corners
that it draws and the target that it draws on. Whatever the device says, and whatever the frames
are, each of them is destroyed on every way out of a call, but for the uniform of a program that is
kept and the target of a frame that is given out; and every error scope that was opened is closed.

## The model

* `Request` is a call of a renderer. Calls follow each other until one of them crashes, since that
  ends the thread that owns the device.
* `PassEnd` lists the ways in which a pass ends, each with the device after it.
* `Device.live` are the buffers for a purpose that were not destroyed.
* `Leaves` says what a call may leave behind.

## What is proved

* `Studio.tidy_of_follow`: every call leaves behind what it may, after any calls before it.
-/

namespace Tint.Gpu

theorem Job.undoneBy_error {σ α : Type} {job : Job σ α} {undo : σ → σ} {s : σ} (s' : σ) {halt : Halt Fault}
    (h : job s = (.error halt, s')) : job.undoneBy undo s = (.error halt, undo s') := by
  simp only [undoneBy, h]

theorem Job.map_eq {σ α β : Type} (f : α → β) (job : Job σ α) (s : σ) :
    (f <$> job) s = (f <$> (job s).1, (job s).2) := by
  cases ended : job s with
  | mk result s' =>
  cases result with
  | error halt => exact Job.bind_error ended
  | ok a => exact Job.bind_ok ended

namespace Device

/-! ### What was made and destroyed -/

/-- A device has destroyed only what was made on it, and knows its buffers by number. -/
structure Numbered (d : Device) : Prop where
  /-- Buffers have numbers that were given out. -/
  buffers_lt : ∀ buffer ∈ d.buffers, buffer.id < d.next
  /-- What was destroyed had been made. -/
  destroyed_lt : ∀ id ∈ d.destroyed, id < d.next

/-- The buffers for a purpose that were not destroyed, newest first. -/
def live (d : Device) (role : BufferRole) : List Buffer :=
  d.buffers.filter fun buffer => buffer.role = role ∧ buffer.id ∉ d.destroyed

variable {d : Device}

theorem Numbered.fresh (h : d.Numbered) : d.next ∉ d.destroyed := fun gone =>
  Nat.lt_irrefl _ (h.destroyed_lt _ gone)

theorem lt_of_live (h : d.Numbered) {role : BufferRole} {buffer : Buffer}
    (alive : buffer ∈ d.live role) : buffer.id < d.next :=
  h.buffers_lt buffer (List.mem_filter.1 alive).1

theorem live_destroy (role : BufferRole) (id : Nat) :
    (d.destroy id).live role = (d.live role).filter fun buffer => buffer.id ≠ id := by
  rw [live, live, List.filter_filter]
  refine List.filter_congr ?_
  intro buffer _
  simp only [destroy, List.mem_cons, not_or]
  grind

/-- What was live stays live while only new things are made and destroyed. -/
theorem Numbered.grow (h : d.Numbered) (d' : Device) (made : List Buffer) (gone : List Nat)
    (buffers : d'.buffers = made ++ d.buffers) (destroyed : d'.destroyed = gone ++ d.destroyed)
    (next : d.next ≤ d'.next) (made_lt : ∀ buffer ∈ made, buffer.id < d'.next)
    (gone_new : ∀ id ∈ gone, d.next ≤ id ∧ id < d'.next) :
    d'.Numbered ∧ ∀ role, d'.live role =
      made.filter (fun buffer => buffer.role = role ∧ buffer.id ∉ d'.destroyed) ++ d.live role := by
  refine ⟨⟨?_, ?_⟩, ?_⟩
  · intro buffer known
    rw [buffers] at known
    rcases List.mem_append.1 known with new | old
    · exact made_lt buffer new
    · exact Nat.lt_of_lt_of_le (h.buffers_lt buffer old) next
  · intro id known
    rw [destroyed] at known
    rcases List.mem_append.1 known with new | old
    · exact (gone_new id new).2
    · exact Nat.lt_of_lt_of_le (h.destroyed_lt id old) next
  · intro role
    rw [live, buffers, List.filter_append]
    congr 1
    refine List.filter_congr ?_
    intro buffer known
    have old : buffer.id ∉ gone := fun new =>
      Nat.not_le_of_lt (h.buffers_lt buffer known) (gone_new _ new).1
    simp [destroyed, old]

/-- **What work on a device may leave behind**, if it ends with `result`. -/
structure Leaves (d : Device) (result : Except (Halt Fault) (Option GpuFrame)) (d' : Device) : Prop where
  /-- Unless the thread ended, every scope that was opened is closed, and no other one. -/
  scopes : result ≠ .error .crash → d'.scopes = d.scopes
  /-- The corners that were made are destroyed. -/
  corners : ∃ made, d'.buffers = made ++ d.buffers ∧
    ∀ buffer ∈ made, buffer.role = .vertices → buffer.id ∈ d'.destroyed
  /-- The targets that were made are destroyed, but for that of the frame that is given out. -/
  targets : ∃ made, d'.textures = made ++ d.textures ∧
    ∀ id ∈ made, id ∈ d'.destroyed ∨
      id ∉ d'.destroyed ∧ ∃ out, result = .ok (some out) ∧ out.texture.id = id
  /-- A frame that is given out is there. -/
  given : ∀ out, result = .ok (some out) →
    out.texture.id ∈ d'.textures ∧ out.texture.id ∉ d'.destroyed
  /-- What was destroyed stays so. -/
  destroyed : ∀ id ∈ d.destroyed, id ∈ d'.destroyed

theorem Leaves.refl (d : Device) {result : Except (Halt Fault) (Option GpuFrame)}
    (nothing : ∀ out, result ≠ .ok (some out)) : d.Leaves result d :=
  ⟨fun _ => rfl, ⟨[], rfl, by simp⟩, ⟨[], rfl, by simp⟩, fun out h => absurd h (nothing out),
    fun _ h => h⟩

/-- What is left by work that gives out nothing and by later work. -/
theorem Leaves.trans {d' d'' : Device} {result : Except (Halt Fault) (Option GpuFrame)}
    (first : d.Leaves (.ok none) d') (second : d'.Leaves result d'') : d.Leaves result d'' where
  scopes returned := (second.scopes returned).trans (first.scopes nofun)
  corners := by
    obtain ⟨made, buffers, gone⟩ := first.corners
    obtain ⟨made', buffers', gone'⟩ := second.corners
    refine ⟨made' ++ made, by rw [buffers', buffers, List.append_assoc], ?_⟩
    intro buffer member role
    rcases List.mem_append.1 member with late | early
    · exact gone' buffer late role
    · exact second.destroyed _ (gone buffer early role)
  targets := by
    obtain ⟨made, textures, gone⟩ := first.targets
    obtain ⟨made', textures', gone'⟩ := second.targets
    refine ⟨made' ++ made, by rw [textures', textures, List.append_assoc], ?_⟩
    intro id member
    rcases List.mem_append.1 member with late | early
    · exact gone' id late
    · rcases gone id early with destroyed | ⟨-, out, given, -⟩
      · exact .inl (second.destroyed id destroyed)
      · cases given
  given := second.given
  destroyed id gone := second.destroyed id (first.destroyed id gone)

/-! ### A pass -/

/-- A texture that is looked at within a scope is not found, or may be reported. -/
theorem lookUp_cases {reports : List String} {rest : List (List String)}
    (scopes : d.scopes = reports :: rest) (t : Texture) :
    t.device ≠ d.id ∧ lookUp t d = (.error .crash, d) ∨
      ∃ reports, lookUp t d = (.ok (), { d with scopes := reports :: rest }) := by
  by_cases foreign : t.device ≠ d.id
  · exact .inl ⟨foreign, (Job.bind_ok rfl).trans (congrFun (if_pos foreign) d)⟩
  · refine .inr ?_
    have looked : lookUp t d =
        (if d.isDestroyed t.id then report "Texture has been destroyed" else pure () : Job Device Unit) d :=
      (Job.bind_ok rfl).trans (Job.else_eq foreign)
    by_cases gone : d.isDestroyed t.id = true
    · refine ⟨"Texture has been destroyed" :: reports, looked.trans ?_⟩
      rw [if_pos gone]
      simp only [report, scopes]
    · refine ⟨reports, looked.trans ?_⟩
      rw [if_neg gone, ← scopes]
      rfl

/-- The target of a pass. -/
def target (d : Device) (extent : Extent) : Texture :=
  ⟨d.id, d.next, extent, .frame, [.renderAttachment, .textureBinding, .copySrc], none⟩

/-- The corners that a pass draws. -/
def corners (d : Device) : Buffer := ⟨d.next + 1, .vertices, Shader.quadBytes.length⟩

/-- A device on which a pass made its target and its corners, and which destroyed some of it. -/
def afterPass (d : Device) (gone : List Nat) : Device :=
  { d with
    next := d.next + 2
    textures := d.next :: d.textures
    buffers := d.corners :: d.buffers
    destroyed := gone ++ d.destroyed }

end Device

/-- The ways in which a pass ends, and the device after it. -/
inductive PassEnd (source mask : GpuFrame) (d : Device) : Except (Halt Fault) GpuFrame → Device → Prop where
  /-- The device has no texture of the source's size. -/
  | unfit : PassEnd source mask d
    (.error (.fault (.texture (.outsideLimit source.extent d.limit)))) d
  /-- The target is given out. -/
  | drawn : PassEnd source mask d (.ok (.ofTexture (d.target source.extent)))
    { d.afterPass [d.next + 1] with verdicts := d.verdicts.tail }
  /-- The device says that something is wrong. -/
  | reported (report : String) : PassEnd source mask d (.error (.fault (.device (.passFailed report))))
    { d.afterPass [d.next, d.next + 1] with verdicts := d.verdicts.tail }
  /-- One of the textures is not on the device. -/
  | crashed (foreign : source.texture.device ≠ d.id ∨ mask.texture.device ≠ d.id)
    (reports : List String) : PassEnd source mask d (.error .crash)
    { d.afterPass [d.next, d.next + 1] with scopes := reports :: d.scopes }

namespace PassEnd

variable {source mask : GpuFrame} {d d' : Device} {result : Except (Halt Fault) GpuFrame}

/-- A pass leaves behind what it may. -/
theorem leaves (h : PassEnd source mask d result d') (numbered : d.Numbered) :
    d.Leaves (some <$> result) d' := by
  have fresh := numbered.fresh
  cases h with
  | unfit => exact .refl d (by rintro _ ⟨⟩)
  | drawn =>
    refine ⟨fun _ => rfl, ⟨[d.corners], rfl, ?_⟩, ⟨[d.next], rfl, ?_⟩, ?_, fun id gone => ?_⟩
    · simp [Device.corners, Device.afterPass]
    · simp [Device.target, Device.afterPass, GpuFrame.ofTexture, fresh]
    · rintro _ ⟨⟩
      simp [Device.target, Device.afterPass, GpuFrame.ofTexture, fresh]
    · exact List.mem_append_right _ gone
  | reported report =>
    refine ⟨fun _ => rfl, ⟨[d.corners], rfl, ?_⟩, ⟨[d.next], rfl, ?_⟩, ?_, fun id gone => ?_⟩
    · simp [Device.corners, Device.afterPass]
    · simp [Device.afterPass]
    · rintro _ ⟨⟩
    · exact List.mem_append_right _ gone
  | crashed foreign reports =>
    refine ⟨fun returned => absurd rfl returned, ⟨[d.corners], rfl, ?_⟩, ⟨[d.next], rfl, ?_⟩, ?_,
      fun id gone => ?_⟩
    · simp [Device.corners, Device.afterPass]
    · simp [Device.afterPass]
    · rintro _ ⟨⟩
    · exact List.mem_append_right _ gone

theorem live_eq (h : PassEnd source mask d result d') (numbered : d.Numbered) :
    d'.Numbered ∧ d.next ≤ d'.next ∧ d'.live .uniform = d.live .uniform := by
  have passed (gone : List Nat) (new : ∀ id ∈ gone, d.next ≤ id ∧ id < d.next + 2) {d' : Device}
      (buffers : d'.buffers = d.corners :: d.buffers) (destroyed : d'.destroyed = gone ++ d.destroyed)
      (next : d'.next = d.next + 2) :
      d'.Numbered ∧ d.next ≤ d'.next ∧ d'.live .uniform = d.live .uniform := by
    obtain ⟨numbered', live⟩ := numbered.grow d' [d.corners] gone buffers destroyed
      (by omega) (by simp [Device.corners, next]) (by rwa [next])
    refine ⟨numbered', by omega, ?_⟩
    rw [live]
    simp [Device.corners]
  cases h with
  | unfit => exact ⟨numbered, Nat.le_refl _, rfl⟩
  | drawn => exact passed [d.next + 1] (by simp) rfl rfl rfl
  | reported report => exact passed [d.next, d.next + 1] (by simp) rfl rfl rfl
  | crashed foreign reports => exact passed [d.next, d.next + 1] (by simp) rfl rfl rfl

end PassEnd

namespace Studio

theorem drawQuad_cases (source mask : GpuFrame) {d : Device} {rest : List (List String)}
    (scopes : d.scopes = [] :: rest) :
    (source.texture.device ≠ d.id ∨ mask.texture.device ≠ d.id) ∧
        (∃ reports, drawQuad source mask d = (.error .crash, { d with scopes := reports :: rest })) ∨
      ∃ said, drawQuad source mask d =
        (.ok said, { d with scopes := rest, verdicts := d.verdicts.tail }) := by
  rcases Device.lookUp_cases scopes source.texture with ⟨foreign, lost⟩ | ⟨reports, found⟩
  · refine .inl ⟨.inl foreign, [], (Job.bind_error lost).trans ?_⟩
    rw [← scopes]
  · rcases Device.lookUp_cases (d := { d with scopes := reports :: rest }) rfl mask.texture
      with ⟨foreign, lost⟩ | ⟨reports', found'⟩
    · exact .inl ⟨.inr foreign, reports, (Job.bind_ok found).trans (Job.bind_error lost)⟩
    · exact .inr ⟨_, (Job.bind_ok found).trans (Job.bind_ok found')⟩

/-- A pass ends in one of its ways. -/
theorem pass_end (source mask : GpuFrame) (d : Device) :
    PassEnd source mask d (pass source mask d).1 (pass source mask d).2 := by
  by_cases fits : d.fits source.extent = true
  · have create := Device.createTexture_eq fits [.renderAttachment, .textureBinding, .copySrc] none
    let drawing : Device := { d with
      next := d.next + 2, textures := d.next :: d.textures, buffers := d.corners :: d.buffers,
      scopes := [] :: d.scopes }
    -- Before the draw the scope is opened and the corners are made.
    rcases drawQuad_cases source mask (d := drawing) rfl
      with ⟨foreign, reports, lost⟩ | ⟨said, drawn⟩
    · have ended : pass source mask d = (.error .crash,
          { d.afterPass [d.next, d.next + 1] with scopes := reports :: d.scopes }) := by
        refine (Job.bind_ok create).trans (Job.undoneBy_error
          { d.afterPass [d.next + 1] with scopes := reports :: d.scopes } ?_)
        refine (Job.bind_ok rfl).trans ((Job.bind_ok rfl).trans ?_)
        exact Job.bind_error (Job.cleanedBy_eq lost)
      rw [ended]
      exact PassEnd.crashed (d := d) foreign reports
    · cases said with
      | none =>
        have ended : pass source mask d = (.ok (.ofTexture (d.target source.extent)),
            { d.afterPass [d.next + 1] with verdicts := d.verdicts.tail }) := by
          refine (Job.bind_ok create).trans (Job.undoneBy_ok ?_)
          refine (Job.bind_ok rfl).trans ((Job.bind_ok rfl).trans ?_)
          exact (Job.bind_ok (Job.cleanedBy_eq drawn)).trans rfl
        rw [ended]
        exact .drawn
      | some report =>
        have ended : pass source mask d = (.error (.fault (.device (.passFailed report))),
            { d.afterPass [d.next, d.next + 1] with verdicts := d.verdicts.tail }) := by
          refine (Job.bind_ok create).trans (Job.undoneBy_error
            { d.afterPass [d.next + 1] with verdicts := d.verdicts.tail } ?_)
          refine (Job.bind_ok rfl).trans ((Job.bind_ok rfl).trans ?_)
          exact (Job.bind_ok (Job.cleanedBy_eq drawn)).trans rfl
        rw [ended]
        exact .reported report
  · have refused : pass source mask d =
        (.error (.fault (.texture (.outsideLimit source.extent d.limit))), d) := by
      exact Job.bind_error ((Job.bind_ok rfl).trans (congrFun (if_neg fits) d))
    rw [refused]
    exact .unfit

/-! ### The calls of a renderer -/

/-- The buffer that a program made now would have. -/
def nextUniform (s : Studio) : Buffer := ⟨s.device.next, .uniform, 16⟩

/-- The device after a program was made or tried. -/
def afterSetup (s : Studio) (gone : List Nat) : Device :=
  { s.device with
    next := s.device.next + 1
    buffers := s.nextUniform :: s.device.buffers
    destroyed := gone ++ s.device.destroyed
    verdicts := s.device.verdicts.tail }

/-- The ways in which making a program ends, and the state after it. -/
inductive SetupEnd (s : Studio) : Except (Halt Fault) Unit → Studio → Prop where
  /-- There was one. -/
  | kept (prepared : s.isPrepared = true) : SetupEnd s (.ok ()) s
  /-- It is made. -/
  | made (unprepared : s.isPrepared = false) (shader : String) (color : List UInt8) :
    SetupEnd s (.ok ()) ⟨s.afterSetup [], { s.renderer with
      program := some ⟨s.nextUniform, shader, color⟩ }⟩
  /-- The device says that something is wrong. -/
  | failed (unprepared : s.isPrepared = false) (report : String)
    (said : s.device.verdicts.head?.join = some report) : SetupEnd s (.error (.fault (.device (.setupFailed report))))
      ⟨s.afterSetup [s.device.next], s.renderer⟩

/-- Making a program ends in one of its ways. -/
theorem setup_end (s : Studio) : SetupEnd s (prepare s).1 (prepare s).2 := by
  by_cases prepared : s.isPrepared = true
  · have kept : prepare s = (.ok (), s) :=
      (Job.bind_ok rfl).trans (congrFun (if_pos prepared) s)
    rw [kept]
    exact .kept prepared
  · have unprepared : s.isPrepared = false := Bool.eq_false_iff.2 prepared
    let pushing : Device := { s.device with scopes := [] :: s.device.scopes }
    let making : Device := { pushing with
      next := s.device.next + 1, buffers := s.nextUniform :: s.device.buffers }
    have pushed : onDevice Device.pushScope s = (.ok (), ⟨pushing, s.renderer⟩) := rfl
    have created : onDevice (Device.createBuffer .uniform 16) ⟨pushing, s.renderer⟩ =
        (.ok s.nextUniform, ⟨making, s.renderer⟩) := rfl
    have checked : onDevice Device.popScope ⟨making, s.renderer⟩ =
        (.ok s.device.verdicts.head?.join, ⟨s.afterSetup [], s.renderer⟩) := rfl
    have opened : prepare s = _ :=
      (Job.bind_ok rfl).trans ((Job.else_eq prepared).trans
        ((Job.bind_ok pushed).trans ((Job.bind_ok created).trans (Job.bind_ok checked))))
    rw [opened]
    cases said : s.device.verdicts.head?.join with
    | none => exact .made unprepared _ _
    | some report => exact .failed unprepared report said

/-- **Who owns what**: the buffers of programs are those that were there at the start, and that of
the program that the renderer has. -/
structure Owns (base : Device) (s : Studio) : Prop where
  /-- The device knew its things by number. -/
  start : base.Numbered
  /-- The device knows its things by number. -/
  numbered : s.device.Numbered
  /-- The device is one that was `base` before. -/
  later : base.next ≤ s.device.next
  /-- The buffers of programs. -/
  uniforms : s.device.live .uniform =
    (s.renderer.program.map (·.uniform)).toList ++ base.live .uniform
  /-- The renderer has made its program. -/
  made : ∀ program, s.renderer.program = some program → base.next ≤ program.uniform.id

variable {base : Device} {s s' : Studio}

theorem owns_start (numbered : base.Numbered) (settings : Settings) :
    Owns base ⟨base, { settings }⟩ :=
  ⟨numbered, numbered, Nat.le_refl _, rfl, by simp⟩

namespace SetupEnd

variable {result : Except (Halt Fault) Unit}

theorem isPrepared (h : SetupEnd s (.ok ()) s') : s'.isPrepared = true := by
  cases h with
  | kept prepared => exact prepared
  | made unprepared shader color => rfl

theorem unset (h : SetupEnd s result s') (failed : result ≠ .ok ()) : s'.isPrepared = false := by
  cases h with
  | kept _ | made _ _ _ => exact absurd rfl failed
  | failed unprepared report said => exact unprepared

theorem returns (h : SetupEnd s result s') : result ≠ .error .crash := by
  cases h <;> nofun

theorem again (h : SetupEnd s result s') (prepared : s.isPrepared = true) :
    result = .ok () ∧ s' = s := by
  cases h with
  | kept _ => exact ⟨rfl, rfl⟩
  | made unprepared _ _ | failed unprepared _ _ =>
    rw [prepared] at unprepared
    cases unprepared

theorem id_eq (h : SetupEnd s result s') : s'.device.id = s.device.id := by
  cases h <;> rfl

theorem leaves (h : SetupEnd s result s') :
    s.device.Leaves ((fun _ => none) <$> result) s'.device := by
  cases h with
  | kept prepared => exact .refl s.device nofun
  | made unprepared shader color =>
    refine ⟨fun _ => rfl, ⟨[s.nextUniform], rfl, ?_⟩, ⟨[], rfl, by simp⟩, nofun, fun id gone => gone⟩
    simp [nextUniform]
  | failed unprepared report said =>
    refine ⟨fun _ => rfl, ⟨[s.nextUniform], rfl, ?_⟩, ⟨[], rfl, by simp⟩, nofun, fun id gone => ?_⟩
    · simp [nextUniform]
    · exact List.mem_cons_of_mem _ gone

/-- A program that is made owns its buffer, and one that could not be made has none. -/
theorem owns (h : SetupEnd s result s') (owned : Owns base s) : Owns base s' := by
  cases h with
  | kept prepared => exact owned
  | made unprepared shader color =>
    obtain ⟨numbered, live⟩ := owned.numbered.grow (s.afterSetup []) [s.nextUniform] [] rfl rfl
      (Nat.le_succ _) (by simp [nextUniform, afterSetup]) (by simp)
    have fresh := owned.numbered.fresh
    refine ⟨owned.start, numbered, Nat.le_succ_of_le owned.later, ?_, ?_⟩
    · have none_before : s.renderer.program = none := by simpa [Studio.isPrepared] using unprepared
      rw [live, owned.uniforms, none_before]
      simp [nextUniform, afterSetup, fresh]
    · intro program known
      obtain rfl := Option.some.inj known
      exact owned.later
  | failed unprepared report said =>
    obtain ⟨numbered, live⟩ := owned.numbered.grow (s.afterSetup [s.device.next])
      [s.nextUniform] [s.device.next] rfl rfl (Nat.le_succ _) (by simp [nextUniform, afterSetup])
      (by simp [afterSetup])
    refine ⟨owned.start, numbered, Nat.le_succ_of_le owned.later, ?_, owned.made⟩
    rw [live, owned.uniforms]
    simp [nextUniform, afterSetup]

end SetupEnd

/-- The ways in which a call with frames ends, and the state after it. -/
inductive ProcessEnd (source : GpuFrame) (mask : Option GpuFrame) (s : Studio) :
    Except (Halt Fault) (Option GpuFrame) → Studio → Prop where
  /-- The program cannot be made. -/
  | unset {fault : Fault} {s' : Studio} (setup : SetupEnd s (.error (.fault fault)) s') :
    ProcessEnd source mask s (.error (.fault fault)) s'
  /-- There is a program, and no mask. -/
  | unmasked {s' : Studio} (setup : SetupEnd s (.ok ()) s') (absent : mask = none) :
    ProcessEnd source mask s (.ok none) s'
  /-- There is a program, and a frame is refused. -/
  | refused {s' : Studio} (setup : SetupEnd s (.ok ()) s') (fault : Fault) :
    ProcessEnd source mask s (.error (.fault fault)) s'
  /-- The program is used. -/
  | passed {weights : GpuFrame} {s' : Studio} {d : Device} {result : Except (Halt Fault) GpuFrame}
    (given : mask = some weights) (setup : SetupEnd s (.ok ()) s')
    (pass : PassEnd source weights s'.device result d) :
    ProcessEnd source mask s (some <$> result) { s' with device := d }

/-- A call with frames ends in one of its ways. -/
theorem process_end (source : GpuFrame) (mask : Option GpuFrame) (s : Studio) :
    ProcessEnd source mask s (process source mask s).1 (process source mask s).2 := by
  have setup := setup_end s
  cases prepared : prepare s with
  | mk result s' =>
  rw [prepared] at setup
  cases result with
  | error halt =>
    have ended : process source mask s = (.error halt, s') := Job.bind_error prepared
    rw [ended]
    cases setup with
    | failed unprepared report said => exact .unset (.failed unprepared report said)
  | ok =>
    cases mask with
    | none =>
      have ended : process source none s = (.ok none, s') := Job.bind_ok prepared
      rw [ended]
      exact .unmasked setup rfl
    | some weights =>
      cases checked : checkFrames s'.renderer.settings.channel source weights with
      | error fault =>
        have ended : process source (some weights) s = (.error (.fault fault), s') := by
          refine (Job.bind_ok prepared).trans ((Job.bind_ok rfl).trans (Job.bind_error ?_))
          rw [checked]
          rfl
        rw [ended]
        exact .refused setup fault
      | ok =>
        obtain ⟨program, known⟩ := Option.isSome_iff_exists.1 setup.isPrepared
        have passed : ofCheck (checkFrames s'.renderer.settings.channel source weights) s' =
            (.ok (), s') := by
          rw [checked]
          rfl
        have ended : process source (some weights) s =
            (some <$> (pass source weights s'.device).1,
              { s' with device := (pass source weights s'.device).2 }) := by
          refine (Job.bind_ok prepared).trans ((Job.bind_ok rfl).trans ((Job.bind_ok passed).trans ?_))
          rw [known]
          exact Job.map_eq some (onDevice (pass source weights)) s'
        rw [ended]
        exact .passed rfl setup (pass_end source weights s'.device)

namespace ProcessEnd

variable {source : GpuFrame} {mask : Option GpuFrame} {result : Except (Halt Fault) (Option GpuFrame)}

theorem leaves (h : ProcessEnd source mask s result s') (owned : Owns base s) :
    s.device.Leaves result s'.device := by
  cases h with
  | unset setup => exact setup.leaves
  | unmasked setup absent => exact setup.leaves
  | refused setup fault => exact setup.leaves.trans (.refl _ nofun)
  | passed given setup pass => exact setup.leaves.trans (pass.leaves (setup.owns owned).numbered)

theorem owns (h : ProcessEnd source mask s result s') (owned : Owns base s) : Owns base s' := by
  cases h with
  | unset setup => exact setup.owns owned
  | unmasked setup absent => exact setup.owns owned
  | refused setup fault => exact setup.owns owned
  | passed given setup pass =>
    have owned' := setup.owns owned
    obtain ⟨numbered, next, live⟩ := pass.live_eq owned'.numbered
    exact ⟨owned.start, numbered, Nat.le_trans owned'.later next, live.trans owned'.uniforms,
      owned'.made⟩

theorem program_eq (h : ProcessEnd source mask s result s') (prepared : s.isPrepared = true) :
    s'.renderer.program = s.renderer.program := by
  cases h with
  | unset setup | unmasked setup _ | refused setup _ => rw [(setup.again prepared).2]
  | passed given setup pass =>
    obtain ⟨-, rfl⟩ := setup.again prepared
    rfl

theorem foreign (h : ProcessEnd source mask s result s') (crashed : result = .error .crash) :
    ∃ weights, mask = some weights ∧
      (source.texture.device ≠ s.device.id ∨ weights.texture.device ≠ s.device.id) := by
  cases h with
  | unset setup => cases crashed
  | unmasked setup absent => cases crashed
  | refused setup fault => cases crashed
  | passed given setup pass =>
    rw [← setup.id_eq]
    cases pass with
    | crashed foreign reports => exact ⟨_, given, foreign⟩
    | unfit | drawn | reported _ => cases crashed

end ProcessEnd

/-! ### Calls one after the other -/

/-- What a renderer can be asked. -/
inductive Request where
  /-- Make the program. -/
  | prepare
  /-- Recolor a frame by a mask. -/
  | process (source : GpuFrame) (mask : Option GpuFrame)
  /-- Release the program. -/
  | release

/-- A call: what it gives out, if it does, and the state after it. -/
def Request.job : Request → Job Studio (Option GpuFrame)
  | prepare => (fun _ => none) <$> Studio.prepare
  | process source mask => Studio.process source mask
  | release => (fun _ => none) <$> Studio.release

/-- Calls one after the other, unless one of them ends the thread. -/
def follow (s : Studio) : List Request → Option Studio
  | [] => some s
  | first :: rest =>
    match first.job s with
    | (.error .crash, _) => none
    | (_, s') => s'.follow rest

/-- **What a call leaves behind**, on a device that was `base` when the renderer was new. -/
structure Tidy (base : Device) (s : Studio) (request : Request)
    (result : Except (Halt Fault) (Option GpuFrame)) (s' : Studio) : Prop where
  /-- Scopes are closed; corners and targets are destroyed, but for a target that is given out. -/
  leaves : s.device.Leaves result s'.device
  /-- The buffer of the program is there while the program is, and no other one that was made. -/
  uniforms : s'.device.live .uniform =
    (s'.renderer.program.map (·.uniform)).toList ++ base.live .uniform
  /-- Where the program cannot be made there is none. -/
  unset : request = .prepare → result ≠ .ok none → s'.isPrepared = false
  /-- Making the program again does nothing. -/
  again : request = .prepare → s.isPrepared = true → result = .ok none ∧ s' = s
  /-- A call with frames keeps the program. -/
  kept : ∀ source mask, request = .process source mask → s.isPrepared = true →
    s'.renderer.program = s.renderer.program
  /-- Only a texture of another device ends the thread. -/
  crashed : result = .error .crash → ∃ source mask, request = .process source (some mask) ∧
    (source.texture.device ≠ s.device.id ∨ mask.texture.device ≠ s.device.id)

/-- Releasing the program destroys its buffer and no other one. -/
theorem Owns.release (owned : Owns base s) :
    s.device.Leaves (.ok none) (Studio.release s).2.device ∧ Owns base (Studio.release s).2 := by
  cases known : s.renderer.program with
  | none =>
    have released : Studio.release s = (.ok (), s) := by
      simp only [Studio.release, Job.modify, known]
    rw [released]
    exact ⟨.refl _ nofun, owned⟩
  | some program =>
    have released : Studio.release s = (.ok (), ⟨s.device.destroy program.uniform.id,
        { s.renderer with program := none }⟩) := by
      simp only [Studio.release, Job.modify, known]
    have uniforms := owned.uniforms
    rw [known] at uniforms
    have alive : program.uniform ∈ s.device.live .uniform := by simp [uniforms]
    have others : ∀ buffer ∈ base.live .uniform, buffer.id ≠ program.uniform.id :=
      fun buffer known' => Nat.ne_of_lt (Nat.lt_of_lt_of_le
        (Device.lt_of_live owned.start known') (owned.made program known))
    rw [released]
    refine ⟨⟨fun _ => rfl, ⟨[], rfl, by simp⟩, ⟨[], rfl, by simp⟩, nofun,
      fun id gone => List.mem_cons_of_mem _ gone⟩, owned.start, ⟨owned.numbered.buffers_lt, ?_⟩,
      owned.later, ?_, by simp⟩
    · intro id gone
      rcases List.mem_cons.1 gone with rfl | before
      · exact Device.lt_of_live owned.numbered alive
      · exact owned.numbered.destroyed_lt id before
    · rw [Device.live_destroy, uniforms]
      simpa using others

/-- A call leaves behind what it may, and keeps to what the renderer owns. -/
theorem Owns.request (owned : Owns base s) (request : Request) :
    Tidy base s request (request.job s).1 (request.job s).2 ∧ Owns base (request.job s).2 := by
  cases request with
  | prepare =>
    have setup := setup_end s
    have owned' := setup.owns owned
    rw [Request.job, Job.map_eq]
    refine ⟨⟨setup.leaves, owned'.uniforms, ?_, ?_, nofun, ?_⟩, owned'⟩
    · intro _ failed
      exact setup.unset fun done => failed (by rw [done]; rfl)
    · intro _ prepared
      obtain ⟨done, same⟩ := setup.again prepared
      exact ⟨by rw [done]; rfl, same⟩
    · intro crashed
      refine absurd ?_ setup.returns
      cases result : (prepare s).1 with
      | error halt =>
        rw [result] at crashed
        exact congrArg Except.error (Except.error.inj crashed)
      | ok =>
        rw [result] at crashed
        cases crashed
  | process source mask =>
    have ended := process_end source mask s
    have owned' := ended.owns owned
    refine ⟨⟨ended.leaves owned, owned'.uniforms, nofun, nofun, ?_, ?_⟩, owned'⟩
    · rintro _ _ ⟨⟩ prepared
      exact ended.program_eq prepared
    · intro crashed
      obtain ⟨weights, given, foreign⟩ := ended.foreign crashed
      exact ⟨source, weights, by rw [given], foreign⟩
  | release =>
    obtain ⟨leaves, owned'⟩ := owned.release
    rw [Request.job, Job.map_eq]
    exact ⟨⟨leaves, owned'.uniforms, nofun, nofun, nofun, nofun⟩, owned'⟩

/-- Calls keep to what the renderer owns. -/
theorem Owns.follow (owned : Owns base s) {requests : List Request}
    (reached : s.follow requests = some s') : Owns base s' := by
  induction requests generalizing s with
  | nil =>
    obtain rfl := Option.some.inj reached
    exact owned
  | cons first rest ih =>
    have next := (owned.request first).2
    rw [Studio.follow] at reached
    cases ended : first.job s with
    | mk result s' =>
    rw [ended] at next reached
    rcases result with (fault | crash) | out
    · exact ih next reached
    · cases reached
    · exact ih next reached

/-- **Nothing leaks**: after any calls, of which none ended the thread, every call leaves behind
what it may. -/
theorem tidy_of_follow {base : Device} (numbered : base.Numbered) (settings : Settings)
    {before : List Request} {s : Studio}
    (reached : follow ⟨base, { settings }⟩ before = some s) (request : Request) :
    Tidy base s request (request.job s).1 (request.job s).2 :=
  (((owns_start numbered settings).follow reached).request request).1

/-- A device that complains about the first pass. -/
def complaining : Device := { verdicts := [none, some "out of memory"] }

/-- A frame of two by two pixels. -/
def square : GpuFrame := .ofTexture (complaining.target ((Extent.ofNat? 2 2).get rfl))

/-- A pass that fails leaves nothing behind but the buffer of the program. -/
theorem tidy_of_follow_complaining :
    ∃ s s', follow ⟨complaining, { settings := .ofColor ⟨12, 200, 99⟩ .red }⟩ [.prepare] = some s ∧
      process square (some square) s =
        (.error (.fault (.device (.passFailed "out of memory"))), s') ∧
      s'.device.scopes = [] ∧ s'.device.live .uniform = [⟨0, .uniform, 16⟩] := by
  obtain ⟨s, reached⟩ : ∃ s, follow ⟨complaining, { settings := .ofColor ⟨12, 200, 99⟩ .red }⟩
      [.prepare] = some s := ⟨_, rfl⟩
  have tidy := tidy_of_follow ⟨by simp [complaining], by simp [complaining]⟩ _ reached
    (.process square (some square))
  obtain rfl := Option.some.inj reached
  exact ⟨_, _, rfl, rfl, tidy.leaves.scopes nofun, tidy.uniforms⟩

end Studio

end Tint.Gpu
