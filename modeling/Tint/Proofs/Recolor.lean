import Tint.Engine.Cpu
import Tint.Proofs.Rows
import Tint.Proofs.Sampling.Reach

/-!
# What recoloring gives

The executor for frames in host memory is an implementation of mixing pixel by pixel, with
three more outcomes: nothing without a mask, an error for a source or a mask that cannot be
used, and a crash where a mask is read behind its last texel. `recolor_spec` says which calls
have which outcome, and that the order in which the rows are recolored does not show in the
result.

`recolor_mem` follows the bytes of a whole frame through sampling and mixing: no channel
leaves the range between the source and the color, and where the mask or the source is at
either end of its range, nothing is left of the roundings in between.
-/

namespace Tint

namespace CpuEngine

variable {e : CpuEngine} {source mask : Frame} {w : Plane}

/-! ### Outcomes -/

theorem recolor_closed (closed : e.closed = true) (mask : Option Frame) :
    e.recolor source mask = .error (.engine (.closed .cpu)) := by
  unfold recolor
  exact if_pos closed

theorem recolor_none (opened : e.closed = false) : e.recolor source none = .ok none := by
  rw [recolor, if_neg (by simp [opened])]

theorem recolor_notRgb (opened : e.closed = false) (layout : source.layout ≠ .rgb) :
    e.recolor source (some mask) = .error (.engine (.notRgb source.layout)) := by
  rw [recolor, if_neg (by simp [opened])]
  exact if_neg layout

theorem recolor_badMask (opened : e.closed = false) (rgb : source.layout = .rgb)
    {cause : MaskError}
    (h : mask.weights e.settings.channel source.extent = .error (.fault cause)) :
    e.recolor source (some mask) = .error (.mask cause) := by
  rw [recolor, if_neg (by simp [opened])]
  simp only [if_pos rgb, h, Fault.ofMask]

theorem recolor_crash (opened : e.closed = false) (rgb : source.layout = .rgb)
    (h : mask.weights e.settings.channel source.extent = .error .crash) :
    e.recolor source (some mask) = .error .crash := by
  rw [recolor, if_neg (by simp [opened])]
  simp only [if_pos rgb, h, Fault.ofMask]

theorem recolor_some (opened : e.closed = false) (rgb : source.layout = .rgb)
    (h : mask.weights e.settings.channel source.extent = .ok w) :
    e.recolor source (some mask) = .ok (some (recolored source w e.settings.scaledTarget)) := by
  rw [recolor, if_neg (by simp [opened])]
  simp only [if_pos rgb, h]

/-- What a call may come to. -/
inductive Outcome (e : CpuEngine) (source : Frame) :
    Option Frame → Except Fault (Option Frame) → Prop where
  /-- The executor is closed. -/
  | closed {mask : Option Frame} (closed : e.closed = true) :
    Outcome e source mask (.error (.engine (.closed .cpu)))
  /-- There is no mask. -/
  | noMask (opened : e.closed = false) : Outcome e source none (.ok none)
  /-- The source has no colors. -/
  | notRgb {m : Frame} (opened : e.closed = false) (layout : source.layout ≠ .rgb) :
    Outcome e source (some m) (.error (.engine (.notRgb source.layout)))
  /-- The mask has no weights. -/
  | badMask {m : Frame} {cause : MaskError} (opened : e.closed = false)
    (rgb : source.layout = .rgb)
    (bad : m.weights e.settings.channel source.extent = .error (.fault cause)) :
    Outcome e source (some m) (.error (.mask cause))
  /-- A texel is read that the mask does not have. -/
  | crashed {m : Frame} (opened : e.closed = false) (rgb : source.layout = .rgb)
    (crash : m.weights e.settings.channel source.extent = .error .crash) :
    Outcome e source (some m) (.error .crash)
  /-- The rows are recolored. -/
  | output {m : Frame} {w : Plane} (opened : e.closed = false) (rgb : source.layout = .rgb)
    (weights : m.weights e.settings.channel source.extent = .ok w) :
    Outcome e source (some m) (.ok (some (recolored source w e.settings.scaledTarget)))

/-- A call comes to nothing else. -/
theorem recolor_outcome (e : CpuEngine) (source : Frame) (mask : Option Frame) :
    Outcome e source mask (e.recolor source mask) := by
  cases opened : e.closed with
  | true =>
    rw [recolor_closed opened mask]
    exact .closed opened
  | false =>
    cases mask with
    | none =>
      rw [recolor_none opened]
      exact .noMask opened
    | some m =>
      by_cases rgb : source.layout = .rgb
      · rcases h : m.weights e.settings.channel source.extent with (cause | _) | w
        · rw [recolor_badMask opened rgb h]
          exact .badMask opened rgb h
        · rw [recolor_crash opened rgb h]
          exact .crashed opened rgb h
        · rw [recolor_some opened rgb h]
          exact .output opened rgb h
      · rw [recolor_notRgb opened rgb]
        exact .notRgb opened rgb

/-! ### Faults and outputs -/

/-- A fault of recoloring is a violation of its contract, or a crash. -/
theorem kind_of_recolor {mask : Option Frame} {fault : Fault}
    (h : e.recolor source mask = .error fault) :
    fault.kind = .contractViolation ∨ fault = .crash := by
  have outcome := recolor_outcome e source mask
  rw [h] at outcome
  cases outcome with
  | closed | notRgb | badMask => exact .inl rfl
  | crashed => exact .inr rfl

/-- A contract is violated only on a closed executor, and for a mask when the source has no colors
or the mask has no weights. -/
theorem recolor_violation_iff (e : CpuEngine) (source : Frame) (mask : Option Frame) :
    (∃ fault, e.recolor source mask = .error fault ∧ fault.kind = .contractViolation) ↔
      e.closed = true ∨ ∃ m, mask = some m ∧ (source.layout ≠ .rgb ∨
        ∃ cause, m.weights e.settings.channel source.extent = .error (.fault cause)) := by
  have outcome := recolor_outcome e source mask
  constructor
  · rintro ⟨fault, h, kind⟩
    rw [h] at outcome
    cases outcome with
    | closed closed => exact .inl closed
    | notRgb _ layout => exact .inr ⟨_, rfl, .inl layout⟩
    | badMask _ _ bad => exact .inr ⟨_, rfl, .inr ⟨_, bad⟩⟩
    | crashed => cases kind
  · intro h
    generalize e.recolor source mask = result at outcome
    cases outcome with
    | closed | notRgb | badMask => exact ⟨_, rfl, rfl⟩
    | noMask opened =>
      rw [opened] at h
      obtain ⟨⟨⟩⟩ | ⟨m, ⟨⟩, -⟩ := h
    | crashed opened rgb weights | output opened rgb weights =>
      rw [opened] at h
      obtain ⟨⟨⟩⟩ | ⟨m, ⟨⟩, layout | ⟨cause, bad⟩⟩ := h
      · exact absurd rgb layout
      · rw [weights] at bad
        cases bad

/-- The program crashes exactly when an open executor has a source with colors and brings the
weights of an accepted mask to a size that is out of reach. -/
theorem recolor_eq_crash_iff (e : CpuEngine) (source : Frame) (mask : Option Frame) :
    e.recolor source mask = .error .crash ↔ e.closed = false ∧ source.layout = .rgb ∧
      ∃ m, mask = some m ∧ (∃ p, m.plane e.settings.channel = .ok p) ∧
        ¬ (m.extent = source.extent ∨ Plane.WithinReach m.extent source.extent) := by
  constructor
  · intro h
    have outcome := recolor_outcome e source mask
    rw [h] at outcome
    cases outcome with
    | crashed opened rgb crash =>
      exact ⟨opened, rgb, _, rfl, (Frame.weights_eq_crash_iff source.nonempty).1 crash⟩
  · rintro ⟨opened, rgb, m, rfl, far⟩
    exact recolor_crash opened rgb ((Frame.weights_eq_crash_iff source.nonempty).2 far)

theorem recolor_eq_none_iff (e : CpuEngine) (source : Frame) (mask : Option Frame) :
    e.recolor source mask = .ok none ↔ e.closed = false ∧ mask = none := by
  constructor
  · intro h
    have outcome := recolor_outcome e source mask
    rw [h] at outcome
    cases outcome with
    | noMask opened => exact ⟨opened, rfl⟩
  · rintro ⟨opened, rfl⟩
    exact recolor_none opened

/-- **Recoloring by rows is mixing pixel by pixel.** A contract is violated by a closed executor,
a source without colors and a mask without weights, and the program crashes where an accepted mask
is brought to a size that is out of reach. Every other call with a mask gives the same frame in
whichever order the rows are recolored: each byte is written once, and the bytes, whose number is
one of 64 bits in any memory, make a frame. -/
theorem recolor_spec (e : CpuEngine) (source : Frame) (mask : Option Frame) :
    (∀ fault, e.recolor source mask = .error fault →
      fault.kind = .contractViolation ∨ fault = .crash) ∧
    ((∃ fault, e.recolor source mask = .error fault ∧ fault.kind = .contractViolation) ↔
      e.closed = true ∨ ∃ m, mask = some m ∧ (source.layout ≠ .rgb ∨
        ∃ cause, m.weights e.settings.channel source.extent = .error (.fault cause))) ∧
    (e.recolor source mask = .error .crash ↔ e.closed = false ∧ source.layout = .rgb ∧
      ∃ m, mask = some m ∧ (∃ p, m.plane e.settings.channel = .ok p) ∧
        ¬ (m.extent = source.extent ∨ Plane.WithinReach m.extent source.extent)) ∧
    (e.recolor source mask = .ok none ↔ e.closed = false ∧ mask = none) ∧
    ∀ m, e.closed = false → mask = some m → source.layout = .rgb →
      (∃ p, m.plane e.settings.channel = .ok p) →
      m.extent = source.extent ∨ Plane.WithinReach m.extent source.extent →
      ∃ w out, m.weights e.settings.channel source.extent = .ok w ∧
        e.recolor source mask = .ok (some out) ∧
        Recoloring source w e.settings.scaledTarget out ∧
        ∀ writes, IsSchedule source w e.settings.scaledTarget writes →
          (writes.map Write.place).Perm (List.range out.bytes.size) ∧
          Write.all source.bytes.size writes = out.bytes ∧
          (source.bytes.size < 2 ^ 64 →
            Frame.ofBytes source.extent source.layout (Write.all source.bytes.size writes) =
              .ok out) := by
  refine ⟨fun _ h => kind_of_recolor h, recolor_violation_iff e source mask,
    recolor_eq_crash_iff e source mask, recolor_eq_none_iff e source mask, ?_⟩
  rintro m opened rfl rgb ⟨p, accepted⟩ held
  obtain ⟨-, w, h, same⟩ | ⟨far, -⟩ := Frame.weights_cases accepted source.nonempty
  · refine ⟨w, _, h, recolor_some opened rgb h, recoloring_recolored rgb same _, ?_⟩
    intro writes schedule
    obtain ⟨places, bytes⟩ := schedule.all_eq rgb same
    have size : (recolored source w e.settings.scaledTarget).bytes.size = source.bytes.size :=
      Write.size_all _ _
    refine ⟨by rwa [size], bytes, ?_⟩
    intro small
    rw [bytes]
    exact Frame.ofBytes_self (recolored source w e.settings.scaledTarget)
      (by rw [size]; exact small)
  · exact absurd held far

/-- A white pixel above a gray one. -/
def column : Frame := ⟨{ width := 1, height := 2 }, .rgb, #[255, 255, 255, 9, 9, 9], by decide, rfl⟩

/-- A mask of the white pixel. -/
def upperMask : Frame := ⟨{ width := 1, height := 2 }, .gray, #[255, 0], by decide, rfl⟩

/-- Two rows recolored from below. -/
theorem recolor_spec_upward :
    ∃ w out, upperMask.weights .red column.extent = .ok w ∧
      recolor ⟨.ofColor ⟨12, 200, 99⟩ .red, false⟩ column (some upperMask) = .ok (some out) ∧
        Frame.ofBytes column.extent column.layout (Write.all 6
          (rowWrites column w (Settings.ofColor ⟨12, 200, 99⟩ .red).scaledTarget
            (rowJobs column w).reverse)) = .ok out := by
  have accepted : upperMask.plane .red = .ok ⟨{ width := 1, height := 2 }, #[255, 0], rfl⟩ := rfl
  obtain ⟨-, -, -, -, output⟩ :=
    recolor_spec ⟨.ofColor ⟨12, 200, 99⟩ .red, false⟩ column (some upperMask)
  obtain ⟨w, out, weights, result, -, schedules⟩ :=
    output upperMask rfl rfl rfl ⟨_, accepted⟩ (.inl rfl)
  obtain ⟨-, -, valid⟩ := schedules _ ⟨_, List.reverse_perm _, .refl _⟩
  exact ⟨w, out, weights, result, valid (by decide)⟩

/-- A black row two pixels longer than `2 ^ 23`. -/
def longRow : Frame where
  extent := .row 8388610
  layout := .rgb
  bytes := Array.replicate 25165830 0
  nonempty := by decide
  size_eq := by rw [Array.size_replicate]; rfl

/-- On an open executor a source with colors and a mask that is accepted come neither to an output
nor to a violation of the contract. -/
theorem recolor_longRow_crash :
    let result := recolor ⟨.ofColor ⟨12, 200, 99⟩ .red, false⟩ longRow (some Frame.longMask)
    longRow.layout = .rgb ∧ (∃ p, Frame.longMask.plane .red = .ok p) ∧ result = .error .crash ∧
      ¬ (∃ out, result = .ok out) ∧
      ¬ ∃ fault, result = .error fault ∧ fault.kind = .contractViolation := by
  intro result
  have crash : recolor ⟨.ofColor ⟨12, 200, 99⟩ .red, false⟩ longRow (some Frame.longMask) =
      .error .crash := recolor_crash rfl rfl Frame.longMask_weights
  refine ⟨rfl, Frame.longMask_plane, crash, ?_, ?_⟩
  · rintro ⟨out, output⟩
    cases crash.symm.trans output
  · rintro ⟨fault, failed, kind⟩
    cases crash.symm.trans failed
    cases kind

/-! ### The range of the result -/

/-- **No channel leaves the range between the source and the color.** A pixel stays as it is
if it is black or if all texels that its weight is made from are zero, and it becomes the
color if it is white and all those texels are full. -/
theorem recolor_mem {e : CpuEngine} {color : Color} {channel : Channel} {source mask : Frame}
    {p : Plane} (opened : e.closed = false) (settings : e.settings = .ofColor color channel)
    (rgb : source.layout = .rgb) (accepted : mask.plane channel = .ok p)
    (wide : mask.extent.width ≤ 2 ^ 24) (tall : mask.extent.height ≤ 2 ^ 24) :
    ∃ out, e.recolor source (some mask) = .ok (some out) ∧ out.layout = .rgb ∧
      out.extent = source.extent ∧
      ∀ x y, x < source.extent.width → y < source.extent.height → ∃ s o : Color,
        source.pixel? x y = some s.toList ∧ out.pixel? x y = some o.toList ∧
        (∀ k, min (s.channel k).toNat (color.channel k).toNat ≤ (o.channel k).toNat ∧
          (o.channel k).toNat ≤ max (s.channel k).toNat (color.channel k).toNat) ∧
        ((s = ⟨0, 0, 0⟩ ∨ ∀ c ∈ p.footprint source.extent x y, p.texel? c.1 c.2 = some 0) →
          o = s) ∧
        (s = ⟨255, 255, 255⟩ →
          (∀ c ∈ p.footprint source.extent x y, p.texel? c.1 c.2 = some 255) → o = color) := by
  obtain ⟨w, weights, same, bytes⟩ :=
    Frame.weights_mem (Frame.plane_resolved accepted) wide tall source.nonempty
  have chosen : e.settings.channel = channel.resolved := by rw [settings]; rfl
  rw [← chosen] at weights
  have result := recolor_some opened rgb weights
  rw [settings] at result
  have recoloring := recoloring_recolored rgb same (Settings.ofColor color channel).scaledTarget
  refine ⟨_, result, rgb, rfl, ?_⟩
  intro x y hx hy
  obtain ⟨byte, texel, bounds⟩ := bytes x y hx hy
  obtain ⟨s, m, pixel, weight, mixed⟩ := recoloring.pixel x y hx hy
  obtain rfl : byte = m := Option.some.inj (texel.symm.trans weight)
  refine ⟨s, _, pixel, mixed, Mix.pixel_between s color byte channel, ?_, ?_⟩
  · rintro (rfl | zero)
    · exact Mix.pixel_eq_source color channel (Mix.share_black byte)
    · have := bounds 0 0 fun c hc => ⟨0, zero c hc, by decide⟩
      obtain rfl : byte = 0 := UInt8.toNat_inj.1 (by simpa using this.2)
      exact Mix.pixel_eq_source color channel (Mix.share_zero s)
  · rintro rfl full
    have := bounds 255 255 fun c hc => ⟨255, full c hc, by decide⟩
    obtain rfl : byte = 255 := UInt8.toNat_inj.1 (le_antisymm this.2 this.1)
    exact Mix.pixel_eq_color color channel Mix.share_white

/-- A mask of one pixel. -/
def dotMask : Frame := ⟨{ width := 1, height := 1 }, .rgba, #[0, 0, 0, 255], by decide, rfl⟩

/-- Brought to the size of two rows, the one pixel recolors white whole. -/
theorem recolor_mem_column :
    ∃ out, recolor ⟨.ofColor ⟨12, 200, 99⟩ .alpha, false⟩ column (some dotMask) = .ok (some out) ∧
      out.pixel? 0 0 = some [12, 200, 99] := by
  have accepted : dotMask.plane .alpha = .ok ⟨{ width := 1, height := 1 }, #[255], rfl⟩ := rfl
  obtain ⟨out, result, -, -, pixels⟩ :=
    @recolor_mem ⟨.ofColor ⟨12, 200, 99⟩ .alpha, false⟩ ⟨12, 200, 99⟩ .alpha column dotMask _ rfl rfl
      rfl accepted (by decide) (by decide)
  obtain ⟨⟨r, g, b⟩, o, source, pixel, -, -, white⟩ := pixels 0 0 (by decide) (by decide)
  have source : some [255, 255, 255] = some [r, g, b] := source
  cases source
  rw [white rfl (by decide +kernel)] at pixel
  exact ⟨out, result, pixel⟩

end CpuEngine

end Tint
