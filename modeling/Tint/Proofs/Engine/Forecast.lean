import Tint.Proofs.Gpu.Healthy
import Tint.Proofs.Recolor

/-!
# What an executor will answer

How an executor's calls come out can be told in advance from the sizes and the layouts of the
frames. A `Forecast` says so, call by call: which frames are refused as masks, what there is of
an output, and that frames that are there stay there. There is a forecast for either memory, on
a device that is healthy, and the two differ in one thing only: the layout that an output is
known by. In host memory it is color; on a device it is color with alpha.

## The model

* `Sheet` is the size and the layout that a frame is known by.
* `Forecast.World` is what an executor depends on. It changes with the calls, and only what it
  `Shows` matters.
* `GpuEngine.Serving` is an executor whose worker waits for jobs.
-/

namespace Tint

/-- What a frame is known by. -/
structure Sheet where
  /-- The width and height. -/
  extent : Extent
  /-- The channels. -/
  layout : PixelLayout
deriving DecidableEq, Repr

/-- The sides are at most `limit`. -/
def Extent.Within (limit : Nat) (extent : Extent) : Prop :=
  extent.width ≤ limit ∧ extent.height ≤ limit

/-- What executors of type `ε` will answer, if they read weights from `channel`, give outputs of
the layout `outputs`, and are handed frames with sides of at most `limit`. -/
structure Forecast (ε : Type) [Engine ε] (channel : Channel) (outputs : PixelLayout)
    (limit : Nat) where
  /-- What an executor depends on. -/
  World : Type
  /-- The executor is at work in a world. -/
  At : World → ε → Prop
  /-- A frame is there in a world, and what it is known by. -/
  Shows : World → Resource → Sheet → Prop
  /-- A frame has the size that it is known by. -/
  extent : ∀ {w r s}, Shows w r s → r.extent = s.extent
  /-- A frame is in the memory of the executor. -/
  residency : ∀ {w e r s}, At w e → Shows w r s → r.residency = Engine.residency e
  /-- A frame is taken in as it is. -/
  importFrame : ∀ {w e}, At w e → ∀ {f : Frame}, f.extent.Within limit →
    ∃ r e' w', Engine.importFrame e f = (.ok r, e') ∧ At w' e' ∧
      Shows w ≤ Shows w' ∧ Shows w' r ⟨f.extent, f.layout⟩
  /-- Without a mask there is no output. -/
  unmasked : ∀ {w e image s}, At w e → Shows w image s →
    ∃ e' w', Engine.process e image none = (.ok none, e') ∧ At w' e' ∧
      Shows w ≤ Shows w'
  /-- A mask that lacks the channel is refused. -/
  refused : ∀ {w e image s mask t cause}, At w e → Shows w image s →
    s.layout = .rgb ∨ s.layout = outputs → Shows w mask t →
    maskPlane channel t.layout = .error cause →
    ∃ e' w', Engine.process e image (some mask) = (.error (.mask cause), e') ∧ At w' e' ∧
      Shows w ≤ Shows w'
  /-- With any other mask the output has the size of the image. -/
  drawn : ∀ {w e image s mask t plane}, At w e → Shows w image s →
    s.layout = .rgb ∨ s.layout = outputs → Shows w mask t →
    maskPlane channel t.layout = .ok plane →
    ∃ out e' w', Engine.process e image (some mask) = (.ok (some out), e') ∧ At w' e' ∧
      Shows w ≤ Shows w' ∧ Shows w' out ⟨s.extent, outputs⟩
  /-- A frame is brought out at its size. -/
  exportFrame : ∀ {w e r s}, At w e → Shows w r s →
    ∃ f e' w', Engine.exportFrame e r = (.ok f, e') ∧ At w' e' ∧
      Shows w ≤ Shows w' ∧ f.extent = s.extent
  /-- The executor can be shut down. -/
  shutdown : ∀ {w e}, At w e → ∃ e', Engine.shutdown e = (.ok (), e')

/-! ### Host memory -/

namespace CpuEngine

variable {S : Settings} {source mask : Frame}

theorem recolor_lacking (rgb : source.layout = .rgb) {cause : MaskError}
    (lacks : maskPlane S.channel mask.layout = .error cause) :
    recolor { settings := S } source (some mask) = .error (.mask cause) := by
  refine recolor_badMask rfl rgb ((Frame.weights_eq_fault_iff source.nonempty).2 ?_)
  obtain ⟨_, h, failed⟩ | ⟨plane, p, h, -, -⟩ := mask.plane_cases S.channel
  · rw [lacks] at h
    cases h
    exact failed
  · rw [lacks] at h
    cases h

theorem recolor_having (rgb : source.layout = .rgb) {plane : Nat}
    (has : maskPlane S.channel mask.layout = .ok plane) (small : mask.extent.Within (2 ^ 24)) :
    ∃ out, recolor { settings := S } source (some mask) = .ok (some out) ∧
      out.extent = source.extent ∧ out.layout = .rgb := by
  obtain ⟨_, h, -⟩ | ⟨_, p, -, accepted, -⟩ := mask.plane_cases S.channel
  · rw [has] at h
    cases h
  · obtain ⟨w, weights, -⟩ := Frame.weights_mem accepted small.1 small.2 source.nonempty
    have output := recolor_some (e := { settings := S }) rfl rgb weights
    exact ⟨_, output, recolor_extent output, (recolor_layout output).trans rgb⟩

theorem process_host (e : CpuEngine) (source mask : Frame) :
    Engine.process (Sum.inl e : AnyEngine) (.host source) (some (.host mask)) =
      ((e.recolor source (some mask)).map (·.map .host), .inl e) := by
  have process : e.process (.host source) (some (.host mask)) =
      (e.recolor source (some mask)).map (·.map .host) := by
    change (e.recolor source (some mask) >>= fun out => pure (out.map Resource.host)) = _
    cases e.recolor source (some mask) <;> rfl
  exact congrArg (·, Sum.inl e) process

/-- What an executor for frames in host memory will answer. -/
def forecast (S : Settings) {limit : Nat} (small : limit ≤ 2 ^ 24) :
    Forecast AnyEngine S.channel .rgb limit where
  World := Unit
  At _ e := e = .inl { settings := S }
  Shows _ r s := ∃ f, r = .host f ∧ s = ⟨f.extent, f.layout⟩ ∧ f.extent.Within limit
  extent := by
    rintro _ _ _ ⟨f, rfl, rfl, -⟩
    rfl
  residency := by
    rintro _ _ _ _ rfl ⟨f, rfl, -, -⟩
    rfl
  importFrame := by
    rintro _ _ rfl f within
    exact ⟨_, _, (), rfl, rfl, fun _ _ h => h, f, rfl, rfl, within⟩
  unmasked := by
    rintro _ _ _ _ rfl ⟨f, rfl, rfl, -⟩
    exact ⟨_, (), rfl, rfl, fun _ _ h => h⟩
  refused := by
    rintro _ _ _ _ _ _ cause rfl ⟨f, rfl, rfl, -⟩ rgb ⟨m, rfl, rfl, -⟩ lacks
    refine ⟨_, (), ?_, rfl, fun _ _ h => h⟩
    rw [process_host, recolor_lacking (or_self_iff.1 rgb) lacks]
    rfl
  drawn := by
    rintro _ _ _ _ _ _ plane rfl ⟨f, rfl, rfl, within⟩ rgb ⟨m, rfl, rfl, wide, tall⟩ has
    obtain ⟨out, output, extent, layout⟩ := recolor_having (or_self_iff.1 rgb) has
      ⟨Nat.le_trans wide small, Nat.le_trans tall small⟩
    refine ⟨.host out, _, (), ?_, rfl, fun _ _ h => h, out, rfl, ?_, ?_⟩
    · rw [process_host, output]
      rfl
    · rw [extent, layout]
    · rw [extent]
      exact within
  exportFrame := by
    rintro _ _ _ _ rfl ⟨f, rfl, rfl, -⟩
    exact ⟨f, _, (), rfl, rfl, fun _ _ h => h, rfl⟩
  shutdown := by
    rintro _ _ rfl
    exact ⟨_, rfl⟩

end CpuEngine

/-! ### The memory of a device -/

namespace GpuEngine

open Gpu

/-- The executor waits for jobs, on a healthy device and with the settings `S`. -/
structure Serving (S : Settings) (limit : Nat) (s : Studio) (e : GpuEngine) : Prop where
  /-- The executor was not shut down. -/
  opened : e.closed = false
  /-- The worker accepts jobs. -/
  accepting : e.worker.accepting = true
  /-- The worker's thread has nothing to do. -/
  waiting : e.worker.thread = .waiting s
  /-- The device has nothing to complain about. -/
  healthy : s.device.Healthy
  /-- The renderer blends with the settings. -/
  settings : s.renderer.settings = S
  /-- The greatest side of a texture. -/
  limit : s.device.limit = limit

/-- A texture of the device is there, and what its frame is known by. -/
def Shows (s : Studio) (r : Resource) (sheet : Sheet) : Prop :=
  ∃ g, r = .device g ∧ sheet = ⟨g.extent, g.source⟩ ∧ s.device.Serves g.texture

variable {S : Settings} {limit : Nat} {e : GpuEngine} {s s' : Studio}

theorem Shows.extends {r : Resource} {sheet : Sheet} (h : Shows s r sheet) (later : s.Extends s') :
    Shows s' r sheet := by
  obtain ⟨g, rfl, rfl, serves⟩ := h
  exact ⟨g, rfl, rfl, serves.extends later.device⟩

/-- The executor does a job and waits for the next one. -/
theorem Serving.run {α : Type} {job : Job Studio α} (h : Serving S limit s e)
    (result : Except Fault α) (done : job s = (result.mapError .fault, s'))
    (later : s.Extends s') : ∃ e', e.run job = (result, e') ∧ Serving S limit s' e' := by
  have execute : Worker.execute job (.waiting s) = (result, .waiting s') := by
    simp only [Worker.execute, done]
    cases result <;> rfl
  refine ⟨{ e with worker := { e.worker with thread := .waiting s' } }, ?_, ?_⟩
  · simp only [GpuEngine.run, h.opened, Worker.run, h.accepting, h.waiting, execute]
    rfl
  · exact ⟨h.opened, h.accepting, rfl, h.healthy.extends later.device,
      later.settings.trans h.settings, later.device.limit.trans h.limit⟩

theorem Serving.shutdown (h : Serving S limit s e) : ∃ e', e.shutdown = (.ok (), e') := by
  obtain ⟨opened, accepting, waiting, -, -, -⟩ := h
  obtain ⟨⟨thread, _, joined, adapter⟩, settings, _⟩ := e
  cases opened
  cases accepting
  cases waiting
  cases joined <;> exact ⟨_, rfl⟩

/-- Recoloring frames of the device. -/
theorem process_device {source : GpuFrame} {mask : Option GpuFrame} {e' : GpuEngine}
    {result : Except Fault (Option GpuFrame)}
    (ran : e.run (Studio.process source mask) = (result, e')) :
    Engine.process (Sum.inr e : AnyEngine) (.device source) (mask.map .device) =
      (result.map (·.map .device), .inr e') := by
  have expected : expectFrames (.device source) (mask.map .device) = .ok (source, mask) := by
    cases mask <;> rfl
  change Engine.lift Sum.inr (e.process (.device source) (mask.map .device)) = _
  simp only [process, expected, recolor, ran]
  rfl

/-- What an executor for frames in the memory of a healthy device will answer. -/
def forecast (S : Settings) {limit : Nat} (small : limit ≤ 2 ^ 24) :
    Forecast AnyEngine S.channel .rgba limit where
  World := Studio
  At s e := ∃ g, e = .inr g ∧ Serving S limit s g
  Shows := Shows
  extent := by
    rintro _ _ _ ⟨g, rfl, rfl, -⟩
    rfl
  residency := by
    rintro _ _ _ _ ⟨_, rfl, -⟩ ⟨g, rfl, -, -⟩
    rfl
  importFrame := by
    rintro s _ ⟨e, rfl, serving⟩ f ⟨wide, tall⟩
    rw [← serving.limit] at wide tall
    obtain ⟨g, d, uploaded, later, serves, extent, layout⟩ :=
      Device.upload_healthy serving.healthy (Device.fits_of_le f.nonempty wide tall)
    obtain ⟨e', ran, serving'⟩ := serving.run (.ok g) (Studio.onDevice_eq uploaded) ⟨later, rfl⟩
    refine ⟨.device g, .inr e', _, ?_, ⟨e', rfl, serving'⟩, ?_, g, rfl, ?_, serves⟩
    · change Engine.lift Sum.inr ((e.upload f).1.map Resource.device, (e.upload f).2) = _
      rw [upload, ran]
      rfl
    · exact fun _ _ h => h.extends ⟨later, rfl⟩
    · rw [extent, layout]
  unmasked := by
    rintro s _ _ _ ⟨e, rfl, serving⟩ ⟨g, rfl, rfl, -⟩
    obtain ⟨s', done, later⟩ := Studio.process_unmasked serving.healthy g
    obtain ⟨e', ran, serving'⟩ := serving.run (.ok none) done later
    refine ⟨.inr e', s', ?_, ⟨e', rfl, serving'⟩, fun _ _ h => h.extends later⟩
    exact process_device ran
  refused := by
    rintro s _ _ _ _ _ cause ⟨e, rfl, serving⟩ ⟨g, rfl, rfl, image⟩ - ⟨m, rfl, rfl, mask⟩ lacks
    have fault : Studio.checkChannel s.renderer.settings.channel m = .error (.mask cause) := by
      rw [serving.settings, checkChannel_eq, lacks]
      rfl
    obtain ⟨s', done, later⟩ := Studio.process_refused serving.healthy image mask fault
    obtain ⟨e', ran, serving'⟩ := serving.run (.error (.mask cause)) done later
    refine ⟨.inr e', s', ?_, ⟨e', rfl, serving'⟩, fun _ _ h => h.extends later⟩
    exact process_device ran
  drawn := by
    rintro s _ _ _ _ _ plane ⟨e, rfl, serving⟩ ⟨g, rfl, rfl, image⟩ - ⟨m, rfl, rfl, mask⟩ has
    have accepted : Studio.checkChannel s.renderer.settings.channel m = .ok () := by
      rw [serving.settings, checkChannel_eq, has]
      rfl
    obtain ⟨out, s', done, later, serves, extent, layout⟩ :=
      Studio.process_drawn serving.healthy image mask accepted
    obtain ⟨e', ran, serving'⟩ := serving.run (.ok (some out)) done later
    refine ⟨.device out, .inr e', s', ?_, ⟨e', rfl, serving'⟩, fun _ _ h => h.extends later,
      out, rfl, ?_, serves⟩
    · exact process_device ran
    · rw [extent, layout]
  exportFrame := by
    rintro s _ _ _ ⟨e, rfl, serving⟩ ⟨g, rfl, rfl, serves⟩
    obtain ⟨f, d, downloaded, later, extent⟩ :=
      Device.download_healthy (serving.limit ▸ small) serves
    obtain ⟨e', ran, serving'⟩ := serving.run (.ok f) (Studio.onDevice_eq downloaded) ⟨later, rfl⟩
    refine ⟨f, .inr e', _, ?_, ⟨e', rfl, serving'⟩, ?_, extent⟩
    · change Engine.lift Sum.inr (e.download g) = _
      rw [download, ran]
      rfl
    · exact fun _ _ h => h.extends ⟨later, rfl⟩
  shutdown := by
    rintro s _ ⟨e, rfl, serving⟩
    obtain ⟨e', closed⟩ := serving.shutdown
    refine ⟨.inr e', ?_⟩
    change Engine.lift Sum.inr e.shutdown = _
    rw [closed]
    rfl

end GpuEngine

end Tint
