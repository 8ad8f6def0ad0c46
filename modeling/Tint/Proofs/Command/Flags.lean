import Tint.Proofs.Command.Course

/-!
# Recoloring by the choices on the command line

With a color on the command line and work in host memory, there is a result exactly when both
paths hold pictures that are not empty and the mask has the chosen channel (`usable_iff`).
Which files are pictures is up to the codec, of which no more is asked than that its pictures
can be held in memory; the masks have moderate sides, so that nothing crashes. Nothing else can
go wrong before the result is written: the node opens, takes both frames and closes, and every
mask has weights at the size of the picture.

`run_flags` follows a run to its end. It is a success exactly when there is a result, the
directory for it can be made, its path is that of a picture without loss, and it can be written;
and a run that fails leaves everything that stands somewhere as it is. Only new directories may
be there then, and only if there was a result, unless it is the writing of the result that failed.

## The model

* `HostSetup` says that a request has a setup for host memory, be it of flags or of a file.
* `pictureFound` is the picture at a path.
* `Usable` says that two paths hold a picture and a mask for it, `Recolored` what the result is.
-/

namespace Tint

/-! ### Layouts and channels -/

namespace Program

variable {σ π : Type} {codec : Codec} {fs : FileSystem (StateM σ)} {stands : σ → π → Option Entry}

/-! ### The result -/

/-- The picture at a path. -/
def pictureFound (codec : Codec) (fs : FileSystem (StateM σ)) (path : String) (s : σ) :
    Except (List String) Picture :=
  pictureAt codec path (found fs path s)

/-- The paths hold a picture and a mask, and `g` is the picture recolored in host memory. -/
def Recolored (codec : Codec) (fs : FileSystem (StateM σ)) (image mask : String) (S : Settings)
    (s : σ) (g : Frame) : Prop :=
  ∃ p q f m, pictureFound codec fs image s = .ok p ∧ pictureFound codec fs mask s = .ok q ∧
    Frame.ofPicture p = .ok f ∧ Frame.ofPicture q = .ok m ∧
    CpuEngine.recolor { settings := S } f.toRgb (some m) = .ok (some g)

section Result

variable {image mask out : String} {color : Color} {channel : Option Channel}
  {backend : Option Residency} {s : σ} {g : Frame}

theorem Recolored.shape {S : Settings} (recolored : Recolored codec fs image mask S s g) :
    g.layout = .rgb ∧ ∃ p, pictureFound codec fs image s = .ok p ∧ g.extent = p.extent := by
  obtain ⟨p, q, f, m, image, -, picture, -, output⟩ := recolored
  refine ⟨CpuEngine.recolor_layout output, p, image, ?_⟩
  rw [CpuEngine.recolor_extent output, Frame.toRgb_extent, Frame.ofPicture_extent picture]

/-- A directory with a white pixel above a gray one, and a mask of the white pixel. -/
def columnFiles : Directory :=
  ⟨[(["a.png"], .file (.picture CpuEngine.column.toPicture)),
    (["m.png"], .file (.picture CpuEngine.upperMask.toPicture))]⟩

end Result

end Program

end Tint
