/-!
# Streams and bindings

A node is bound to named streams. A stream carries images or masks, in host memory
or in the memory of a graphics device. A binding is accepted if it has one image and
one mask coming in, one image and nothing else going out, and all of them in the
same memory.

## What is proved

* `Binding.residency_preset`: the preset of either memory is accepted.
-/

namespace Tint

/-- The memory that a frame lives in. -/
inductive Residency where
  /-- Host memory. -/
  | cpu
  /-- The memory of a graphics device. -/
  | gpu
deriving DecidableEq, Repr

/-- The text of a memory. -/
def Residency.text : Residency → String
  | cpu => "cpu"
  | gpu => "gpu"

/-- What a stream carries. -/
inductive StreamRole where
  /-- Pictures to recolor, or recolored ones. -/
  | image
  /-- Weights. -/
  | mask
deriving DecidableEq, Repr

/-- A named stream. -/
structure StreamTag where
  /-- What the stream carries. -/
  role : StreamRole
  /-- The memory of its frames. -/
  residency : Residency
deriving DecidableEq, Repr

namespace StreamTag

/-- The name of a stream. -/
def name : StreamTag → String
  | ⟨.image, .cpu⟩ => "IMAGE"
  | ⟨.image, .gpu⟩ => "IMAGE_GPU"
  | ⟨.mask, .cpu⟩ => "MASK"
  | ⟨.mask, .gpu⟩ => "MASK_GPU"

/-- All streams. -/
def all : List StreamTag :=
  [⟨.image, .cpu⟩, ⟨.image, .gpu⟩, ⟨.mask, .cpu⟩, ⟨.mask, .gpu⟩]

/-- The stream carries images. -/
def isImage (t : StreamTag) : Bool := t.role = .image

/-- The stream carries masks. -/
def isMask (t : StreamTag) : Bool := t.role = .mask

end StreamTag

/-- A place of a binding that takes exactly one stream. -/
inductive Terminal where
  /-- The image coming in. -/
  | inputImage
  /-- The image going out. -/
  | outputImage
  /-- The mask coming in. -/
  | inputMask
deriving DecidableEq, Repr

/-- The text of a place. -/
def Terminal.text : Terminal → String
  | inputImage => "input image"
  | outputImage => "output image"
  | inputMask => "input mask"

/-- Why a binding is not accepted. -/
inductive BindingError where
  /-- Nothing comes in. -/
  | noInputs
  /-- Nothing goes out. -/
  | noOutputs
  /-- A place has no stream. -/
  | missing (place : Terminal)
  /-- A place has two streams or more; the first two are given. -/
  | repeated (place : Terminal) (first second : StreamTag)
  /-- A mask goes out. -/
  | maskOutput (tag : StreamTag)
  /-- A stream is not in the memory of the image coming in. -/
  | mixed (image other : StreamTag)
deriving DecidableEq, Repr

/-- The wording of the error. -/
def BindingError.text : BindingError → String
  | noInputs => "node has no input streams"
  | noOutputs => "node has no output streams"
  | missing place => "missing " ++ place.text ++ " stream"
  | repeated place a b =>
    "expected exactly one " ++ place.text ++ " stream, found " ++ a.name ++ " and " ++ b.name
  | maskOutput tag => tag.name ++ " is not a valid output stream"
  | mixed image other =>
    "cannot mix " ++ image.name ++ " (" ++ image.residency.text ++ ") with " ++ other.name ++
      " (" ++ other.residency.text ++ ")"

/-- The streams that a node is bound to. -/
structure Binding where
  /-- The streams coming in. -/
  inputs : List StreamTag
  /-- The streams going out. -/
  outputs : List StreamTag
deriving DecidableEq, Repr

namespace Binding

/-- Image and mask in, image out, all in one memory. -/
def preset (r : Residency) : Binding := ⟨[⟨.image, r⟩, ⟨.mask, r⟩], [⟨.image, r⟩]⟩

/-- The one stream of `tags` that passes the test. -/
def only (place : Terminal) (test : StreamTag → Bool) (tags : List StreamTag) :
    Except BindingError StreamTag :=
  match tags.filter test with
  | [] => .error (.missing place)
  | [tag] => .ok tag
  | first :: second :: _ => .error (.repeated place first second)

/-- A stream is in the memory of the image coming in. -/
def checkMemory (image other : StreamTag) : Except BindingError Unit :=
  if other.residency = image.residency then .ok () else .error (.mixed image other)

/-- The memory that all streams of an accepted binding share. -/
def residency (b : Binding) : Except BindingError Residency := do
  if b.inputs.isEmpty then throw .noInputs
  if b.outputs.isEmpty then throw .noOutputs
  let image ← only .inputImage StreamTag.isImage b.inputs
  let output ← only .outputImage StreamTag.isImage b.outputs
  let mask ← only .inputMask StreamTag.isMask b.inputs
  match b.outputs.find? StreamTag.isMask with
  | some tag => throw (.maskOutput tag)
  | none =>
    checkMemory image output
    checkMemory image mask
    return image.residency

/-- The preset of either memory is accepted. -/
theorem residency_preset (r : Residency) : (preset r).residency = .ok r := by
  cases r <;> rfl

end Binding

end Tint
