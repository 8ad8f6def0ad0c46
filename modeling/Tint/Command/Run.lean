import Tint.Command.Arguments
import Tint.Engine.Gpu
import Tint.Files.Content
import Tint.Node

/-!
# The program

What a request does: read the setup, the picture and the mask, recolor the picture by a
node of its own, and write the result. Nothing is written before the recoloring has
succeeded, and the path of the result is looked at last.

## The model

* The program is an action over any `FileSystem`, so that the same program runs on files
  and on a `Directory` in memory, and it reads pictures by any `Codec`.
* `Outcome` is what a run of the program shows beside its files.
-/

namespace Tint

/-- What a run of the program shows. -/
structure Outcome where
  /-- The status that the program ends with. -/
  status : Nat
  /-- What it writes to the standard output. -/
  output : String := ""
  /-- What it writes to the standard error output. -/
  errors : String := ""
deriving DecidableEq, Repr

namespace Program

/-- The name and the version of the program. -/
def versionText : String := "recolor 0.1.0\n"

/-- How to use the program, line by line. -/
def helpLines : List String :=
  ["Recolor the masked region of an image",
   "",
   "Usage: recolor [OPTIONS] --image <IMAGE> --mask <MASK> --out <OUT>",
   "",
   "Options:",
   "      --image <IMAGE>                Source image (PNG or JPEG)",
   "      --mask <MASK>                  Mask image. Gray, RGB or RGBA; " ++
     "resized to the source if needed",
   "      --out <OUT>                    Output image path; format follows the extension",
   "      --config <CONFIG>              Node configuration JSON (streams and options)",
   "      --color <COLOR>                Target color as `R,G,B`",
   "      --mask-channel <MASK_CHANNEL>  Mask channel holding the weight " ++
     "[possible values: red, alpha]",
   "      --backend <BACKEND>            Executor to run on. " ++
     "Overrides the streams of `--config` [possible values: cpu, gpu]",
   "  -h, --help                         Print help",
   "  -V, --version                      Print version"]

/-- How to use the program. -/
def helpText : String := String.join (helpLines.map (· ++ "\n"))

/-- The outcome of a fault. A crash has a status of its own; what is said of it is left to the
language. -/
def failed (f : Fault) : Outcome :=
  if f.kind = .crash then { status := 101 } else { status := 1, errors := f.report }

/-- The outcome of a command line that is not understood. -/
def refused (e : UsageError) : Outcome := { status := 2, errors := "error: " ++ e.text ++ "\n" }

/-- The outcome of a result written to a path. -/
def wrote (path : String) : Outcome := { status := 0, errors := "wrote " ++ path ++ "\n" }

/-- The context of a fault that concerns a path. -/
def context (task path : String) : String := task ++ " '" ++ path ++ "'"

/-! ### Setup -/

/-- The streams of a setup after the user's choice of a memory. -/
def rebound (backend : Option Residency) (config : NodeConfig) : NodeConfig :=
  match backend with
  | none => config
  | some residency =>
    let streams := Binding.preset residency
    { config with inputs := streams.inputs, outputs := streams.outputs }

/-- The configuration that flags make: host memory, and the user's choices. -/
def flagConfig (color : Color) (channel : Option Channel) : NodeConfig :=
  rebound (some .cpu) { inputs := [], outputs := [], options := ⟨some color, channel⟩ }

/-- The configuration of a text that was found at a path. -/
def configAt (path : String) (found : Except AccessError Content) : Except Fault NodeConfig :=
  match textAt found with
  | .error causes => .error (.chain (context "read node config" path) causes)
  | .ok text => (NodeConfig.ofJson text).mapError .config

/-! ### Frames -/

/-- The frame of a picture that was found at a path. -/
def frameAt (codec : Codec) (path : String) (found : Except AccessError Content) :
    Except Fault Frame :=
  match pictureAt codec path found with
  | .error causes => .error (.chain (context "read image" path) causes)
  | .ok picture => (Frame.ofPicture picture).mapError .frame

/-- Recolor one image by one mask on a node of its own. -/
def recolorOnce (platform : Platform) (config : NodeConfig) (image mask : Frame) :
    Except Fault Frame := do
  let node ← (Node.ofConfig (createEngine platform) config).mapError
    (Fault.within "open recolor node")
  let (image, node) := node.importFrame image.toRgb
  let image ← image
  let (mask, node) := node.importFrame mask
  let mask ← mask
  let (packet, node) := node.process (Timestamp.clamp 0) image (some mask)
  match ← packet with
  | none => throw (.chain "recolor produced no output" [])
  | some packet =>
    let (out, node) := node.exportFrame packet.payload
    let out ← out
    let (closed, _) := node.close
    closed
    return out.toRgb

/-! ### The run -/

variable {m : Type → Type} [Monad m] (codec : Codec) (fs : FileSystem m)

/-- Read the configuration at a path. -/
def readConfig (path : String) : ExceptT Fault m NodeConfig := do
  ExceptT.mk (configAt path <$> fs.read path)

/-- Read the picture at a path as a frame. -/
def readFrame (path : String) : ExceptT Fault m Frame := do
  ExceptT.mk (frameAt codec path <$> fs.read path)

/-- The configuration of a setup. -/
def configOf : Setup → ExceptT Fault m NodeConfig
  | .file path => readConfig fs path
  | .flags color channel => return flagConfig color channel

/-- Make the directory that a path is in, if the path names one. -/
def makeParent (path : String) : ExceptT Fault m Unit :=
  match Path.parent? path with
  | none => return ()
  | some parent => ExceptT.mk do
    return (← fs.createDirectories parent).mapError fun e =>
      .chain (context "create output dir" parent) [e.text]

/-- Write a frame to a path. -/
def writeFrame (path : String) (frame : Frame) : ExceptT Fault m Unit :=
  match formatToWrite path with
  | .error e => throw (.chain (context "write image" path) [e.text])
  | .ok format => ExceptT.mk do
    return (← fs.write path format frame.toPicture).mapError fun e =>
      .chain (context "write image" path) [e.text]

/-- Do what a request asks for. -/
def recolor (platform : Platform) (r : Request) : ExceptT Fault m Unit := do
  let config ← configOf fs r.setup
  let image ← readFrame codec fs r.image
  let mask ← readFrame codec fs r.mask
  let out ← ExceptT.mk (pure (recolorOnce platform (rebound r.backend config) image mask))
  makeParent fs r.out
  writeFrame fs r.out out

/-- Do what a command asks for. -/
def perform (platform : Platform) : Command → m Outcome
  | .help => return { status := 0, output := helpText }
  | .version => return { status := 0, output := versionText }
  | .recolor r => do
    match ← (recolor codec fs platform r).run with
    | .ok () => return wrote r.out
    | .error f => return failed f

/-- Run the program with arguments. -/
def run (platform : Platform) (arguments : List String) : m Outcome :=
  match Command.parse arguments with
  | .error e => return refused e
  | .ok command => perform codec fs platform command

end Program

end Tint
