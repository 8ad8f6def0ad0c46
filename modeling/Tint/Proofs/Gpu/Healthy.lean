import Tint.Engine.Gpu
import Tint.Proofs.Gpu.Texels

/-!
# Work on a healthy device

A device is healthy between two jobs if it has nothing to complain about by itself, no error
scope is open, and it has destroyed only what was made on it. On a healthy device every job
of an executor has a known outcome, provided that the textures that it is given are still
there. Each job is followed once; what it leaves behind is a healthy device on which whatever
was there is there still (`Extends`), so that runs of jobs can be followed by composing these.

## What is proved

* `upload_healthy`, `download_healthy`, `pass_healthy`: the jobs on a device.
* `process_unmasked`, `process_refused` and `process_drawn`: what a renderer does with frames.
-/

namespace Tint.Gpu

/-! ### Jobs -/

namespace Job

variable {σ τ α β : Type} {job : Job σ α} {next : α → Job σ β} {s s' : σ}

theorem bind_ok {a : α} (h : job s = (.ok a, s')) : (job >>= next) s = next a s' := by
  simp only [bind, h]

theorem bind_error {halt : Halt Fault} (h : job s = (.error halt, s')) :
    (job >>= next) s = (.error halt, s') := by
  simp only [bind, h]

theorem else_eq {c : Prop} [Decidable c] {other : Job σ α} (h : ¬ c) :
    (if c then other else job) s = job s := by
  rw [if_neg h]

theorem within_eq {part : τ → σ} {put : τ → σ → τ} {t : τ} {result : Except (Halt Fault) α}
    (h : job (part t) = (result, s')) : job.within part put t = (result, put t s') := by
  simp only [within, h]

theorem cleanedBy_eq {clean : σ → σ} {result : Except (Halt Fault) α} (h : job s = (result, s')) :
    job.cleanedBy clean s = (result, clean s') := by
  simp only [cleanedBy, h]

theorem undoneBy_ok {undo : σ → σ} {a : α} (h : job s = (.ok a, s')) :
    job.undoneBy undo s = (.ok a, s') := by
  simp only [undoneBy, h]

end Job

namespace Device

/-! ### Health -/

/-- A device between two jobs, with nothing to complain about. -/
structure Healthy (d : Device) : Prop where
  /-- The device has nothing to say by itself. -/
  silent : ∀ verdict ∈ d.verdicts, verdict = none
  /-- No error scope is open. -/
  unscoped : d.scopes = []
  /-- What was destroyed had been made. -/
  destroyed_lt : ∀ id ∈ d.destroyed, id < d.next

/-- A device after more work: whatever was there is there still, and there is no more to
complain about. -/
structure Extends (d d' : Device) : Prop where
  /-- It is the same device. -/
  id : d'.id = d.id
  /-- The greatest side of a texture stays. -/
  limit : d'.limit = d.limit
  /-- Numbers are not given out twice. -/
  next : d.next ≤ d'.next
  /-- What is destroyed by the work was made by the work. -/
  destroyed : ∀ id ∈ d'.destroyed, id ∈ d.destroyed ∨ d.next ≤ id ∧ id < d'.next
  /-- The scopes that were opened are closed. -/
  scopes : d'.scopes = d.scopes
  /-- The device has nothing new to say. -/
  verdicts : ∀ verdict ∈ d'.verdicts, verdict ∈ d.verdicts

theorem destroyed_cons {d : Device} {made next : Nat} (above : d.next ≤ made) (below : made < next) :
    ∀ id ∈ made :: d.destroyed, id ∈ d.destroyed ∨ d.next ≤ id ∧ id < next := by
  intro id gone
  obtain rfl | before := List.mem_cons.1 gone
  · exact .inr ⟨above, below⟩
  · exact .inl before

theorem Extends.refl (d : Device) : d.Extends d :=
  ⟨rfl, rfl, Nat.le_refl _, fun _ => .inl, rfl, fun _ h => h⟩

theorem Extends.trans {d d' d'' : Device} (h : d.Extends d') (h' : d'.Extends d'') :
    d.Extends d'' where
  id := h'.id.trans h.id
  limit := h'.limit.trans h.limit
  next := Nat.le_trans h.next h'.next
  destroyed id gone := by
    have := h'.next
    obtain before | ⟨made, below⟩ := h'.destroyed id gone
    · exact (h.destroyed id before).imp_right fun ⟨made, below⟩ => ⟨made, by omega⟩
    · exact .inr ⟨Nat.le_trans h.next made, below⟩
  scopes := h'.scopes.trans h.scopes
  verdicts verdict said := h.verdicts verdict (h'.verdicts verdict said)

theorem Healthy.extends {d d' : Device} (h : d.Healthy) (later : d.Extends d') : d'.Healthy where
  silent verdict said := h.silent verdict (later.verdicts verdict said)
  unscoped := later.scopes.trans h.unscoped
  destroyed_lt id gone := (later.destroyed id gone).elim
    (fun before => Nat.lt_of_lt_of_le (h.destroyed_lt id before) later.next) And.right

/-- A texture of the device that is there, and can be sampled and read back. -/
structure Serves (d : Device) (t : Texture) : Prop where
  /-- The texture is on the device. -/
  device : t.device = d.id
  /-- The texture was made. -/
  made : t.id < d.next
  /-- The texture was not destroyed. -/
  alive : t.id ∉ d.destroyed
  /-- The texture holds a frame. -/
  format : t.format = .frame
  /-- The texture can be sampled. -/
  sampled : .textureBinding ∈ t.usage
  /-- The texture can be read back. -/
  copied : .copySrc ∈ t.usage
  /-- The size of the texture is one of the device. -/
  fits : d.fits t.extent = true

/-- A texture that is there stays there. -/
theorem Serves.extends {d d' : Device} {t : Texture} (h : d.Serves t) (later : d.Extends d') :
    d'.Serves t where
  device := h.device.trans later.id.symm
  made := Nat.lt_of_lt_of_le h.made later.next
  alive gone := (later.destroyed _ gone).elim h.alive fun ⟨made, _⟩ =>
    Nat.not_le_of_lt h.made made
  format := h.format
  sampled := h.sampled
  copied := h.copied
  fits := by
    rw [Device.fits, later.limit]
    exact h.fits

/-! ### Scopes -/

theorem lookUp_eq {d : Device} {t : Texture} (device : t.device = d.id) (alive : t.id ∉ d.destroyed) :
    lookUp t d = (.ok (), d) := by
  have there : d.isDestroyed t.id = false := by simpa [isDestroyed] using alive
  refine (Job.bind_ok rfl).trans ((Job.else_eq fun h => h device).trans ?_)
  rw [there]
  rfl

theorem popScope_eq {d : Device} (silent : ∀ verdict ∈ d.verdicts, verdict = none)
    (scopes : d.scopes = [[]]) :
    popScope d = (.ok none, { d with scopes := [], verdicts := d.verdicts.tail }) := by
  have verdict : d.verdicts.head?.join = none := by
    cases said : d.verdicts with
    | nil => rfl
    | cons first rest => rw [silent first (by rw [said]; exact List.mem_cons_self)]; rfl
  simp only [popScope, scopes, verdict]
  rfl

theorem readBack_eq {d : Device} {t : Texture} (device : t.device = d.id)
    (alive : t.id ∉ d.destroyed) (row padded : Nat) :
    readBack t row padded d =
      (.ok (unpaddedRows (paddedRows (d.contents t) row padded t.extent.height) row padded
        t.extent.height), d) := by
  unfold readBack
  rw [Job.bind_ok (lookUp_eq device alive)]
  rfl

/-- A size of the device is one that can be read back. -/
theorem small_of_fits {d : Device} (limit : d.limit ≤ 2 ^ 24) {extent : Extent}
    (fits : d.fits extent = true) :
    ¬ extent.IsEmpty ∧ ¬ 1 <<< 32 ≤ extent.width * 4 ∧
      ¬ 1 <<< 64 ≤ alignRow (extent.width * 4) * extent.height ∧
      ¬ 1 <<< 64 ≤ extent.area * PixelLayout.rgba.channels := by
  simp only [Device.fits, Bool.and_eq_true, decide_eq_true_eq, ne_eq] at fits
  obtain ⟨⟨⟨wide, tall⟩, width⟩, height⟩ := fits
  have width : extent.width ≤ 2 ^ 24 := Nat.le_trans width limit
  have height : extent.height ≤ 2 ^ 24 := Nat.le_trans height limit
  have row : alignRow (extent.width * 4) ≤ 2 ^ 27 := by
    rw [alignRow, rowAlignment]
    omega
  have buffer : alignRow (extent.width * 4) * extent.height ≤ 2 ^ 27 * 2 ^ 24 :=
    Nat.mul_le_mul row height
  have area : extent.area ≤ 2 ^ 24 * 2 ^ 24 := Nat.mul_le_mul width height
  refine ⟨by rw [Extent.IsEmpty]; omega, by omega, by omega, ?_⟩
  rw [PixelLayout.channels]
  omega

/-! ### The jobs of an executor -/

variable {d : Device}

/-- Uploading gives a texture of the frame. -/
theorem upload_healthy (healthy : d.Healthy) {f : Frame} (fits : d.fits f.extent = true) :
    ∃ g d', upload f d = (.ok g, d') ∧ d.Extends d' ∧ d'.Serves g.texture ∧
      g.extent = f.extent ∧ g.source = f.layout := by
  refine ⟨_, _, upload_eq fits, ?_, ?_, rfl, rfl⟩
  · exact ⟨rfl, rfl, Nat.le_succ _, fun _ => .inl, rfl, fun _ h => h⟩
  · exact ⟨rfl, Nat.lt_succ_self _, fun h => Nat.lt_irrefl _ (healthy.destroyed_lt _ h), rfl,
      by simp, by simp, fits⟩

/-- Reading a texture back gives its texels, row by row. -/
theorem download_rows (limit : d.limit ≤ 2 ^ 24) {g : GpuFrame} (serves : d.Serves g.texture) :
    ∃ f d', download g d = (.ok f, d') ∧ d.Extends d' ∧ f.extent = g.extent ∧ f.layout = .rgba ∧
      f.bytes = unpaddedRows (paddedRows (d.contents g.texture) (g.extent.width * 4)
        (alignRow (g.extent.width * 4)) g.extent.height) (g.extent.width * 4)
        (alignRow (g.extent.width * 4)) g.extent.height := by
  obtain ⟨nonempty, rowSmall, bufferSmall, frameSmall⟩ := small_of_fits limit serves.fits
  have copied : ¬ (!g.texture.usage.contains .copySrc) = true := by
    simpa using serves.copied
  let row := g.texture.extent.width * 4
  let buffer : Buffer := ⟨d.next, .readback, alignRow row * g.texture.extent.height⟩
  let copying : Device := { d with next := d.next + 1, buffers := buffer :: d.buffers }
  have copy := readBack_eq (d := copying) serves.device serves.alive row (alignRow row)
  have size : (unpaddedRows (paddedRows (copying.contents g.texture) row (alignRow row)
      g.texture.extent.height) row (alignRow row) g.texture.extent.height).size =
        g.texture.extent.area * PixelLayout.rgba.channels := by
    rw [unpaddedRows, Array.size_ofFn, Extent.area, PixelLayout.channels]
    exact Nat.mul_right_comm _ _ _
  have read : download g d =
      (.ok ⟨g.texture.extent, .rgba, _, nonempty, size⟩, copying.destroy d.next) := by
    -- The checks of the texture, and then of the sizes.
    refine (Job.else_eq fun h => h serves.format).trans ((Job.else_eq copied).trans ?_)
    refine (Job.else_eq rowSmall).trans ((Job.else_eq bufferSmall).trans ?_)
    -- The buffer is made, and destroyed after the texture went through it.
    refine (Job.bind_ok rfl).trans ((Job.bind_ok (Job.cleanedBy_eq copy)).trans ?_)
    rw [Frame.ofBytes, dif_neg nonempty, if_neg frameSmall, dif_pos size]
    rfl
  exact ⟨_, _, read, ⟨rfl, rfl, Nat.le_succ _, destroyed_cons (Nat.le_refl _) (Nat.lt_succ_self _),
    rfl, fun _ h => h⟩, rfl, rfl, rfl⟩

/-- Reading a texture back gives a frame of its size. -/
theorem download_healthy (limit : d.limit ≤ 2 ^ 24) {g : GpuFrame} (serves : d.Serves g.texture) :
    ∃ f d', download g d = (.ok f, d') ∧ d.Extends d' ∧ f.extent = g.extent := by
  obtain ⟨f, d', read, later, extent, -⟩ := download_rows limit serves
  exact ⟨f, d', read, later, extent⟩

/-- A pass draws on a new texture of the source's size. -/
theorem pass_healthy (healthy : d.Healthy) {source mask : GpuFrame}
    (image : d.Serves source.texture) (weights : d.Serves mask.texture) :
    ∃ out d', Studio.pass source mask d = (.ok out, d') ∧ d.Extends d' ∧
      d'.Serves out.texture ∧ out.extent = source.extent ∧ out.source = .rgba := by
  let target : Texture := ⟨d.id, d.next, source.extent, .frame,
    [.renderAttachment, .textureBinding, .copySrc], none⟩
  let quad : Buffer := ⟨d.next + 1, .vertices, Shader.quadBytes.length⟩
  let drawing : Device := { d with
    next := d.next + 2, textures := d.next :: d.textures, buffers := quad :: d.buffers,
    scopes := [] :: d.scopes }
  let drawn : Device := { drawing with scopes := [], verdicts := d.verdicts.tail }
  have opened : drawing.scopes = [[]] := congrArg (List.cons []) healthy.unscoped
  have draw : Studio.drawQuad source mask drawing = (.ok none, drawn) := by
    refine (Job.bind_ok (lookUp_eq (d := drawing) image.device image.alive)).trans ?_
    refine (Job.bind_ok (lookUp_eq (d := drawing) weights.device weights.alive)).trans ?_
    exact popScope_eq (d := drawing) healthy.silent opened
  have create := createTexture_eq image.fits [.renderAttachment, .textureBinding, .copySrc] none
  have passed : Studio.pass source mask d = (.ok (.ofTexture target), drawn.destroy quad.id) := by
    refine (Job.bind_ok create).trans (Job.undoneBy_ok ?_)
    -- The scope is opened and the quad is made; both are gone after the draw.
    refine (Job.bind_ok rfl).trans ((Job.bind_ok rfl).trans ?_)
    exact (Job.bind_ok (Job.cleanedBy_eq draw)).trans rfl
  refine ⟨_, _, passed, ⟨rfl, rfl, Nat.le_add_right _ 2, ?_, ?_, ?_⟩,
    ⟨rfl, Nat.lt_add_of_pos_right (by decide), ?_, rfl, by simp [GpuFrame.ofTexture, target],
      by simp [GpuFrame.ofTexture, target], image.fits⟩, rfl, rfl⟩
  · exact destroyed_cons (Nat.le_succ _) (Nat.lt_succ_self _)
  · exact healthy.unscoped.symm
  · exact fun verdict said => List.mem_of_mem_tail said
  · intro gone
    obtain same | before := List.mem_cons.1 gone
    · exact absurd same (Nat.ne_of_lt (Nat.lt_succ_self d.next))
    · exact Nat.lt_irrefl _ (healthy.destroyed_lt _ before)

end Device

/-! ### The jobs of a renderer -/

namespace Studio

/-- A studio after more work. -/
structure Extends (s s' : Studio) : Prop where
  /-- The device after more work. -/
  device : s.device.Extends s'.device
  /-- The renderer blends as before. -/
  settings : s'.renderer.settings = s.renderer.settings

variable {s : Studio} {source mask : GpuFrame}

theorem onDevice_eq {α : Type} {job : Job Device α} {result : Except (Halt Fault) α} {d : Device}
    (h : job s.device = (result, d)) : onDevice job s = (result, { s with device := d }) :=
  Job.within_eq h

/-- The program can be made. -/
theorem prepare_healthy (healthy : s.device.Healthy) :
    ∃ s', prepare s = (.ok (), s') ∧ s.Extends s' ∧ s'.isPrepared = true := by
  by_cases prepared : s.isPrepared = true
  · have kept : prepare s = (.ok (), s) :=
      (Job.bind_ok rfl).trans (congrFun (if_pos prepared) s)
    exact ⟨s, kept, ⟨.refl _, rfl⟩, prepared⟩
  · let uniform : Buffer := ⟨s.device.next, .uniform, 16⟩
    let opened : Device := { s.device with scopes := [] :: s.device.scopes }
    let making : Device := { opened with
      next := s.device.next + 1, buffers := uniform :: s.device.buffers }
    have opening : onDevice Device.pushScope s = (.ok (), ⟨opened, s.renderer⟩) := rfl
    have creating : onDevice (Device.createBuffer .uniform 16) ⟨opened, s.renderer⟩ =
      (.ok uniform, ⟨making, s.renderer⟩) := rfl
    let checked : Device := { making with scopes := [], verdicts := s.device.verdicts.tail }
    have checking : onDevice Device.popScope ⟨making, s.renderer⟩ =
        (.ok none, ⟨checked, s.renderer⟩) :=
      onDevice_eq (Device.popScope_eq (d := making) healthy.silent
        (congrArg (List.cons []) healthy.unscoped))
    let program : Program :=
      ⟨uniform, Shader.text s.renderer.settings.channel, Shader.uniformBytes s.renderer.settings.target⟩
    have made : prepare s = (.ok (), ⟨checked, { s.renderer with program := some program }⟩) := by
      refine (Job.bind_ok rfl).trans ((Job.else_eq prepared).trans ?_)
      refine (Job.bind_ok opening).trans ((Job.bind_ok creating).trans ?_)
      exact (Job.bind_ok checking).trans rfl
    refine ⟨_, made, ⟨⟨rfl, rfl, Nat.le_succ _, fun _ => .inl, ?_, ?_⟩, rfl⟩, rfl⟩
    · exact healthy.unscoped.symm
    · exact fun verdict said => List.mem_of_mem_tail said

/-- Without a mask there is no output. -/
theorem process_unmasked (healthy : s.device.Healthy) (source : GpuFrame) :
    ∃ s', process source none s = (.ok none, s') ∧ s.Extends s' := by
  obtain ⟨s', prepared, later, -⟩ := prepare_healthy healthy
  exact ⟨s', Job.bind_ok prepared, later⟩

theorem checkFrames_eq (image : s.device.Serves source.texture)
    (weights : s.device.Serves mask.texture) (channel : Channel) :
    checkFrames channel source mask = checkChannel channel mask := by
  have sampleable {t : GpuFrame} (served : s.device.Serves t.texture) (role : FrameRole) :
      checkSampleable role t = .ok () := by
    rw [checkSampleable, if_neg (fun h => h served.format), if_neg (by simpa using served.sampled)]
  simp only [checkFrames, sampleable image, sampleable weights]
  rfl

/-- A mask that lacks the channel is refused. -/
theorem process_refused (healthy : s.device.Healthy) (image : s.device.Serves source.texture)
    (weights : s.device.Serves mask.texture) {fault : Fault}
    (lacks : checkChannel s.renderer.settings.channel mask = .error fault) :
    ∃ s', process source (some mask) s = (.error (.fault fault), s') ∧ s.Extends s' := by
  obtain ⟨s', prepared, later, -⟩ := prepare_healthy healthy
  have refused : checkFrames s'.renderer.settings.channel source mask = .error fault := by
    rw [checkFrames_eq image weights, later.settings, lacks]
  refine ⟨s', (Job.bind_ok prepared).trans ((Job.bind_ok rfl).trans (Job.bind_error ?_)), later⟩
  rw [refused]
  rfl

/-- A mask that has the channel is drawn with. -/
theorem process_drawn (healthy : s.device.Healthy) (image : s.device.Serves source.texture)
    (weights : s.device.Serves mask.texture)
    (has : checkChannel s.renderer.settings.channel mask = .ok ()) :
    ∃ out s', process source (some mask) s = (.ok (some out), s') ∧ s.Extends s' ∧
      s'.device.Serves out.texture ∧ out.extent = source.extent ∧ out.source = .rgba := by
  obtain ⟨s', prepared, later, ready⟩ := prepare_healthy healthy
  obtain ⟨program, made⟩ := Option.isSome_iff_exists.1 ready
  have passed : checkFrames s'.renderer.settings.channel source mask = .ok () := by
    rw [checkFrames_eq image weights, later.settings, has]
  obtain ⟨out, d, drawn, after, served, extent, layout⟩ :=
    Device.pass_healthy (healthy.extends later.device) (image.extends later.device)
      (weights.extends later.device)
  have checked : ofCheck (checkFrames s'.renderer.settings.channel source mask) s' =
      (.ok (), s') := by
    rw [passed]
    rfl
  refine ⟨out, { s' with device := d }, ?_, ⟨later.device.trans after, later.settings⟩, served,
    extent, layout⟩
  refine (Job.bind_ok prepared).trans ((Job.bind_ok rfl).trans ((Job.bind_ok checked).trans ?_))
  rw [made]
  exact Job.bind_ok (onDevice_eq drawn)

end Studio

end Tint.Gpu
