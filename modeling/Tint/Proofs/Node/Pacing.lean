import Tint.Proofs.Node.History
import Tint.Proofs.Node.Protocol
import Tint.Timestamp

/-!
# Frames at a fixed rate

The time of a frame is its number divided by the rate, rounded down to a microsecond. Two frames
have the same time if the rate leaves them less than a microsecond, or if their times are held at
the end of the range; otherwise times increase with the numbers. A node is content with any times
that increase, whatever becomes of the frames: what it keeps is the time of a frame before.

## The model

* `Wide.mul` and `Wide.div` are products and quotients of signed numbers of 128 bits, in which a
  time is computed; a `Wide.Trap` is how a computation ends that has no value.
* `Timestamp.Spacing` is what holds of the times of frames at a rate.
* `AtRate` says of what a node is asked that it brings frames at a rate.
* `Ahead` says that the frames still to come are later than what a node keeps, each later than the
  one before it.
* `Welcomes` says that a node has no objection to the time of a frame.

## What is proved

* `Timestamp.spacing`: at any rate times do not decrease, and at a million frames a second or less
  they increase.
* `Ahead.run`: what is ahead of a node is ahead of it after any calls.
* `frames_in_time`: a node that has taken no frame yet welcomes all frames at such a rate.
-/

namespace Tint

/-! ### Signed numbers of 128 bits -/

namespace Wide

/-- How a computation ends that has no value. -/
inductive Trap where
  /-- A number is not one of 128 bits. -/
  | overflow
  /-- The divisor is zero. -/
  | noDivisor
deriving DecidableEq, Repr

/-- A number that is one of 128 bits. -/
def hold (n : ℤ) : Except Trap ℤ := if -2 ^ 127 ≤ n ∧ n < 2 ^ 127 then .ok n else .error .overflow

/-- A product of 128 bits. -/
def mul (a b : ℤ) : Except Trap ℤ := hold (a * b)

/-- A quotient of 128 bits, rounded toward zero. -/
def div (a b : ℤ) : Except Trap ℤ := if b = 0 then .error .noDivisor else hold (a.tdiv b)

theorem hold_natCast {n : ℕ} (small : n < 2 ^ 127) : hold n = .ok n := if_pos (by omega)

theorem mul_natCast {a b : ℕ} (small : a * b < 2 ^ 127) : mul a b = .ok (a * b : ℕ) := by
  rw [mul, ← Int.natCast_mul]
  exact hold_natCast small

theorem div_natCast {a b : ℕ} (small : a < 2 ^ 127) (positive : 0 < b) :
    div a b = .ok (a / b : ℕ) := by
  rw [div, if_neg (by omega), ← Int.ofNat_tdiv]
  exact hold_natCast ((Nat.div_le_self a b).trans_lt small)

end Wide

/-! ### The times of frames -/

namespace Timestamp

/-- The microseconds before a frame, however many. -/
def elapsed (frame rate : ℕ) : ℕ := frame * 1000000 / rate

/-- The time of a frame, with signed numbers of 128 bits on the way. -/
def ofFrameWide (frame : UInt64) (rate : UInt32) : Except Wide.Trap (Option Timestamp) :=
  if rate = 0 then .ok none
  else do
    let scaled ← Wide.mul frame.toNat 1000000
    let micros ← Wide.div scaled rate.toNat
    return some (clamp micros)

theorem toNat_pos {rate : UInt32} (positive : 0 < rate) : 0 < rate.toNat :=
  UInt32.lt_iff_toNat_lt.1 positive

theorem ofFrame?_of_pos (frame : UInt64) {rate : UInt32} (positive : 0 < rate) :
    ofFrame? frame.toNat rate.toNat = some (clamp (elapsed frame.toNat rate.toNat)) :=
  if_neg (toNat_pos positive).ne'

/-- **Nothing overflows on the way to the time of a frame.** -/
theorem ofFrameWide_eq (frame : UInt64) (rate : UInt32) :
    ofFrameWide frame rate = .ok (ofFrame? frame.toNat rate.toNat) := by
  unfold ofFrameWide
  by_cases still : rate = 0
  · subst still
    rfl
  · have positive : 0 < rate := UInt32.pos_iff_ne_zero.2 still
    have counted : frame.toNat < 2 ^ 64 := frame.toNat_lt
    have small : frame.toNat * 1000000 < 2 ^ 127 := by omega
    have product : Wide.mul frame.toNat 1000000 = .ok (frame.toNat * 1000000 : ℕ) :=
      Wide.mul_natCast small
    rw [if_neg still, product, ofFrame?_of_pos _ positive, elapsed]
    simp only [bind, Except.bind, Wide.div_natCast small (toNat_pos positive)]
    rfl

/-- A time that is not negative is held at the end of the range only. -/
theorem micros_clamp (n : ℕ) : (clamp n).micros = min (n : ℤ) 9223372036854775807 := by
  change max (-9223372036854775808) (min (n : ℤ) 9223372036854775807) = _
  omega

theorem clamp_le_clamp {m n : ℕ} (h : m ≤ n) : clamp m ≤ clamp n := by
  change (clamp m).micros ≤ (clamp n).micros
  rw [micros_clamp, micros_clamp]
  omega

theorem clamp_lt_clamp {m n : ℕ} (h : m < n) (inRange : n ≤ 9223372036854775807) :
    clamp m < clamp n := by
  change (clamp m).micros < (clamp n).micros
  rw [micros_clamp, micros_clamp]
  omega

theorem elapsed_le_elapsed {first later : ℕ} (rate : ℕ) (h : first ≤ later) :
    elapsed first rate ≤ elapsed later rate :=
  Nat.div_le_div_right (Nat.mul_le_mul_right 1000000 h)

theorem elapsed_lt_elapsed {first later rate : ℕ} (positive : 0 < rate) (slow : rate ≤ 1000000)
    (h : first < later) : elapsed first rate < elapsed later rate :=
  calc elapsed first rate
      < first * 1000000 / rate + 1 := Nat.lt_succ_self _
    _ = (first * 1000000 + rate) / rate := (Nat.add_div_right _ positive).symm
    _ ≤ elapsed later rate := Nat.div_le_div_right (by omega)

/-- The time of a frame is not held at the end of the range. -/
def InRange (rate : UInt32) (frame : UInt64) : Prop :=
  elapsed frame.toNat rate.toNat ≤ 9223372036854775807

/-- The times of frames at a rate. -/
structure Spacing (rate : UInt32) : Prop where
  /-- A frame has a time: its number divided by the rate, rounded down and held in the range. -/
  value : ∀ frame : UInt64, ∃ t, ofFrame? frame.toNat rate.toNat = some t ∧
    t.micros = min ((frame.toNat * 1000000 / rate.toNat : ℕ) : ℤ) 9223372036854775807
  /-- It can be computed in signed numbers of 128 bits. -/
  computed : ∀ frame : UInt64, ofFrameWide frame rate = .ok (ofFrame? frame.toNat rate.toNat)
  /-- Times do not decrease. -/
  le : ∀ first later : UInt64, first ≤ later → ∀ s t, ofFrame? first.toNat rate.toNat = some s →
    ofFrame? later.toNat rate.toNat = some t → s ≤ t
  /-- They increase, as long as they are not held, exactly if a microsecond is enough. -/
  lt_iff : (∀ first later : UInt64, first < later → InRange rate later → ∀ s t,
    ofFrame? first.toNat rate.toNat = some s → ofFrame? later.toNat rate.toNat = some t → s < t) ↔
      rate ≤ 1000000

theorem ofFrame?_lt {rate : UInt32} (positive : 0 < rate) (slow : rate ≤ 1000000)
    {first later : UInt64} (before : first < later) (inRange : InRange rate later)
    {s t : Timestamp} (hs : ofFrame? first.toNat rate.toNat = some s)
    (ht : ofFrame? later.toNat rate.toNat = some t) : s < t := by
  rw [ofFrame?_of_pos _ positive] at hs ht
  cases hs
  cases ht
  exact clamp_lt_clamp (elapsed_lt_elapsed (toNat_pos positive) slow before) inRange

/-- **What holds of the times of frames at any rate.** -/
theorem spacing {rate : UInt32} (positive : 0 < rate) : Spacing rate where
  value frame := ⟨_, ofFrame?_of_pos _ positive, micros_clamp _⟩
  computed frame := ofFrameWide_eq frame rate
  le first later order s t hs ht := by
    rw [ofFrame?_of_pos _ positive] at hs ht
    cases hs
    cases ht
    exact clamp_le_clamp (elapsed_le_elapsed _ order)
  lt_iff := by
    constructor
    · intro increasing
      by_contra fast
      -- The first two frames have the same time: less than a microsecond lies between them.
      have next : elapsed (UInt64.toNat 1) rate.toNat = 0 :=
        Nat.div_eq_of_lt (Nat.lt_of_not_le fast)
      have start : elapsed (UInt64.toNat 0) rate.toNat = 0 := Nat.zero_div _
      have inRange : InRange rate 1 := next.trans_le (Nat.zero_le _)
      have later := increasing 0 1 (by decide) inRange _ _ (ofFrame?_of_pos 0 positive)
        (ofFrame?_of_pos 1 positive)
      rw [next, start] at later
      exact Int.lt_irrefl _ later
    · intro slow first later before inRange s t hs ht
      exact ofFrame?_lt positive slow before inRange hs ht

/-- Frames whose numbers increase have times that increase. -/
theorem pairwise_ofFrame? {rate : UInt32} (positive : 0 < rate) (slow : rate ≤ 1000000)
    {frames : List UInt64} (increasing : frames.Pairwise (· < ·))
    (inRange : ∀ frame ∈ frames, InRange rate frame) {times : List Timestamp}
    (atRate : times.map some = frames.map fun frame => ofFrame? frame.toNat rate.toNat) :
    times.Pairwise (· < ·) := by
  have ordered : (times.map some).Pairwise fun s t => ∀ a b, s = some a → t = some b → a < b := by
    rw [atRate, List.pairwise_map]
    refine increasing.imp_of_mem ?_
    intro first later _ member before a b ha hb
    exact ofFrame?_lt positive slow before (inRange later member) ha hb
  rw [List.pairwise_map] at ordered
  exact ordered.imp fun h => h _ _ rfl rfl

end Timestamp

/-! ### Frames to come -/

namespace Node

variable {ε : Type} [Engine ε] {create : Residency → Settings → Except Fault ε} {n : Node ε}

/-- The times of the frames in a list of requests. -/
def times (requests : List (Request ε)) : List Timestamp := requests.filterMap Request.time?

/-- The frames to come are later than the last one that the node took, and each is later than the
one before it. -/
def Ahead (n : Node ε) (requests : List (Request ε)) : Prop :=
  (n.last.toList ++ times requests).Pairwise (· < ·)

/-- A call keeps what is to come after it ahead of the node, whether its frame is taken or not. -/
theorem Ahead.handle {request : Request ε} {rest : List (Request ε)}
    (ahead : n.Ahead (request :: rest)) : (n.handle create request).2.Ahead rest := by
  refine List.Pairwise.sublist ?_ ahead
  obtain same | ⟨time, timed, kept, -⟩ := handle_last create n request
  · rw [same]
    exact (List.sublist_cons_self request rest).filterMap _ |>.append_left _
  · rw [kept, times, times, List.filterMap_cons_some timed]
    exact List.sublist_append_right _ _

/-- **Whatever was asked, what is to come is ahead of the node.** -/
theorem Ahead.run {before rest : List (Request ε)} (ahead : n.Ahead (before ++ rest)) :
    (run create n before).2.Ahead rest := by
  induction before generalizing n with
  | nil => exact ahead
  | cons request before ih => exact ih ahead.handle

omit [Engine ε] in
theorem Ahead.next {time : Timestamp} {image : Resource} {mask : Option Resource}
    {rest : List (Request ε)} (ahead : n.Ahead (.process time image mask :: rest)) :
    ∀ last ∈ n.last, last < time := by
  intro last kept
  exact (List.pairwise_append.1 ahead).2.2 last (Option.mem_toList.2 kept) time List.mem_cons_self

/-! ### A stream at a fixed rate -/

theorem Step.last_of_untaken {n' : Node ε} {request : Request ε} {answer : Except Fault Answer}
    (step : Step create n request answer n')
    (untaken : Event.time? ⟨request, answer, n'⟩ = none) : n'.last = n.last := by
  cases step with
  | refused | opened | closed => rfl
  | @passed _ _ e e' _ _ _ asked =>
    rw [asked.record_last (n.work e') _, untaken]
    rfl

theorem run_last_of_untaken {requests : List (Request ε)}
    (untaken : ∀ event ∈ trace create n requests, event.time? = none) :
    (run create n requests).2.last = n.last := by
  induction requests generalizing n with
  | nil => rfl
  | cons request rest ih =>
    rw [trace_cons, List.forall_mem_cons] at untaken
    exact (ih untaken.2).trans ((handle_step create n request).last_of_untaken untaken.1)

/-- An open node stays open until it is closed. -/
theorem Step.ready {n' : Node ε} {request : Request ε} {answer : Except Fault Answer}
    (step : Step create n request answer n') (ready : n.stage = .ready)
    (stays : request ≠ .close) : n'.stage = .ready := by
  cases step with
  | refused => exact ready
  | opened => rfl
  | passed => rw [record_stage]; exact ready
  | closed => exact absurd rfl stays

/-- An open node is open after any calls that do not close it. -/
theorem run_ready {requests : List (Request ε)} (ready : n.stage = .ready)
    (stays : ∀ request ∈ requests, request ≠ .close) :
    (run create n requests).2.stage = .ready := by
  induction requests generalizing n with
  | nil => exact ready
  | cons request rest ih =>
    rw [List.forall_mem_cons] at stays
    exact ih ((handle_step create n request).ready ready stays.1) stays.2

/-- A run keeps a node sound. -/
theorem Sound.run (sound : n.Sound) (requests : List (Request ε)) :
    (run create n requests).2.Sound := by
  induction requests generalizing n with
  | nil => exact sound
  | cons request rest ih => exact ih (sound.handle create request)

/-- A node has no objection to the time of a frame. -/
structure Welcomes (n : Node ε) (time : Timestamp) (image : Resource) (mask : Option Resource) :
    Prop where
  /-- The node is open. -/
  ready : n.stage = .ready
  /-- The time is after that of the last frame. -/
  inTime : checkTime n.last time = .ok ()
  /-- The answer is up to the memory of the frames and the executor, and that the frame is late is
  only said if the executor itself says it. -/
  answered : ∃ e, n.engine = some e ∧
    (n.process time image mask).1 = (checkFrames (Engine.residency e) image mask >>= fun () =>
      (Engine.process e image mask).1).map (fun out => out.map (⟨time, ·⟩)) ∧
    ∀ late last, (n.process time image mask).1 = .error (.node (.notAfter late last)) →
      (Engine.process e image mask).1 = .error (.node (.notAfter late last))

/-- A node that is open welcomes the next of the frames that are ahead of it. -/
theorem Ahead.welcomes {time : Timestamp} {image : Resource} {mask : Option Resource}
    {rest : List (Request ε)} (ahead : n.Ahead (.process time image mask :: rest))
    (sound : n.Sound) (ready : n.stage = .ready) : n.Welcomes time image mask := by
  obtain ⟨e, engine⟩ := Option.isSome_iff_exists.1 (sound.engine_iff.2 ready)
  have outcome := process_eq ready engine ahead.next image mask
  refine ⟨ready, checkTime_ok ahead.next, e, engine, outcome, ?_⟩
  intro late last refused
  rw [outcome] at refused
  have refused := eq_error_of_map refused
  obtain passed | ⟨role, found, failed⟩ := checkFrames_cases (Engine.residency e) image mask
  · rwa [passed] at refused
  · rw [failed] at refused
    cases refused

/-- What a node is asked brings frames at a rate: with numbers that increase, at times that are
not held at the end of the range. Anything else may be asked in between, but for closing. -/
structure AtRate (rate : UInt32) (frames : List UInt64) (requests : List (Request ε)) : Prop where
  /-- Each frame comes at the time of its number. -/
  times : (times requests).map some =
    frames.map fun frame => Timestamp.ofFrame? frame.toNat rate.toNat
  /-- The numbers increase. -/
  increasing : frames.Pairwise (· < ·)
  /-- No time is held. -/
  inRange : ∀ frame ∈ frames, Timestamp.InRange rate frame
  /-- The node is not closed. -/
  stays : ∀ request ∈ requests, request ≠ .close

omit [Engine ε] in
theorem AtRate.ahead {rate : UInt32} {frames : List UInt64} {requests : List (Request ε)}
    (stream : AtRate rate frames requests) (positive : 0 < rate) (slow : rate ≤ 1000000)
    (untimed : n.last = none) : n.Ahead requests := by
  rw [Ahead, untimed]
  exact Timestamp.pairwise_ofFrame? positive slow stream.increasing stream.inRange stream.times

/-- **The times of frames at a fixed rate suit a node.** Times at any rate are the numbers divided
by the rate, do not overflow and do not decrease, and they increase exactly if the rate is a million
frames a second or less. At such a rate a node that is open and has taken no frame yet welcomes one
frame after the other, with masks or without, whatever becomes of the frames before. -/
theorem frames_in_time (create : Residency → Settings → Except Fault ε) (rate : UInt32)
    (positive : 0 < rate) :
    Timestamp.Spacing rate ∧
      (rate ≤ 1000000 → ∀ (history requests : List (Request ε)) (n : Node ε) (frames : List UInt64),
        (run create fresh history).2 = n → n.stage = .ready →
        (∀ event ∈ trace create fresh history, event.time? = none) →
        AtRate rate frames requests →
        ∀ before time image mask after, requests = before ++ .process time image mask :: after →
          (run create n before).2.Welcomes time image mask) := by
  refine ⟨Timestamp.spacing positive, ?_⟩
  rintro slow history _ n frames rfl ready untaken stream before time image mask after rfl
  have ahead := stream.ahead positive slow (run_last_of_untaken untaken)
  refine ahead.run.welcomes ((Sound.fresh.run history).run before) (run_ready ready ?_)
  intro request member
  exact stream.stays request (List.mem_append_left _ member)

/-- A node is opened for frames in host memory. -/
def filmSetup : List (Request CpuEngine) :=
  [.openWith (.preset .cpu) { settings := .ofColor ⟨12, 200, 99⟩ .red }]

/-- At 25 frames a second, a frame is recolored, one is taken in, and the next one has no mask. -/
def film : List (Request CpuEngine) :=
  [.process { micros := 0 } (.host CpuEngine.column) (some (.host CpuEngine.upperMask)),
    .importFrame CpuEngine.column, .process { micros := 40000 } (.host CpuEngine.column) none]

/-- The frame with number 4 is welcome after the frames with numbers 0 and 1. -/
theorem frames_in_time_film : Timestamp.Spacing 25 ∧
    (run cpuOnly (run cpuOnly fresh filmSetup).2 film).2.Welcomes { micros := 160000 }
      (.host CpuEngine.column) (some (.host CpuEngine.upperMask)) := by
  have stream : AtRate 25 [0, 1, 4] (film ++ [.process { micros := 160000 } (.host CpuEngine.column)
      (some (.host CpuEngine.upperMask))]) :=
    { times := by decide +kernel, increasing := by decide,
      inRange := by simp [Timestamp.InRange, Timestamp.elapsed], stays := by simp [film] }
  obtain ⟨spacing, welcomes⟩ := frames_in_time cpuOnly 25 (by decide)
  refine ⟨spacing, welcomes (by decide) filmSetup _ _ _ rfl rfl ?_ stream film _ _ _ [] rfl⟩
  rw [filmSetup, trace_cons, List.forall_mem_cons]
  exact ⟨rfl, List.forall_mem_nil _⟩

end Node

end Tint
