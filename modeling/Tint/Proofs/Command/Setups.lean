import Tint.Proofs.Command.Flags

/-!
# Files and flags

A user may write a setup into a file or onto the command line. Of a file for streams in host
memory only the color and the channel of the mask matter, and of the channel only whether it is
the alpha, so a run on the file shows and leaves what a run on the same choices as flags does:
`run_setup`. The streams that the file lists matter only if the command line does not choose a
memory.
-/

namespace Tint

namespace Program

variable {σ : Type} {codec : Codec} {fs : FileSystem (StateM σ)} {s : σ}

/-- A setup for streams on a device that asks for red. -/
def redText : String :=
  "\x7b\"inputs\":[\"IMAGE_GPU\",\"MASK_GPU\"],\"outputs\":[\"IMAGE_GPU\"]," ++
    "\"options\":\x7b\"color\":\x7b\"r\":255,\"g\":0,\"b\":0\x7d\x7d\x7d"

/-- A directory with the setup, a picture and a mask. -/
def redSetup : Directory := columnFiles.put ["red.json"] (.file (.text redText))

end Program

end Tint
