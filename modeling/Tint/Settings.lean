import Tint.Binary
import Tint.Color

/-!
# Settings of the blend

What a user may choose: the color to blend toward, and the channel of the mask that
holds the weight. `Options` are the choices as given; `Settings` are the validated
ones that the executors use.

## What is proved

* `Settings.channel_resolved`: settings name the channel that is read.
-/

namespace Tint

/-- The channel of a mask that holds the weight. -/
inductive Channel where
  /-- Not chosen; the first channel is read. -/
  | unknown
  /-- The first channel. -/
  | red
  /-- The fourth channel. -/
  | alpha
deriving DecidableEq, Repr

namespace Channel

/-- The channel that is read. -/
def resolved : Channel → Channel
  | unknown | red => red
  | alpha => alpha

/-- The place of the channel among the channels of a pixel. -/
def plane (c : Channel) : Nat :=
  match c.resolved with
  | alpha => 3
  | _ => 0

/-- The name of the channel in the shader. -/
def component (c : Channel) : String :=
  match c.resolved with
  | alpha => "a"
  | _ => "r"

/-- The channel of options that choose none. -/
def preset : Channel := red

/-- The name of a channel. -/
def name : Channel → String
  | unknown => "Unknown"
  | red => "Red"
  | alpha => "Alpha"

@[simp] theorem resolved_resolved (c : Channel) : c.resolved.resolved = c.resolved := by
  cases c <;> rfl

end Channel

/-- The choices of a user. -/
structure Options where
  /-- The color to blend toward. -/
  color : Option Color := none
  /-- The channel of the mask. -/
  channel : Option Channel := none
deriving DecidableEq, Repr

/-- Why options are refused. -/
inductive OptionsError where
  /-- There is no color. -/
  | missingColor
deriving DecidableEq, Repr

/-- The wording of the error. -/
def OptionsError.text : OptionsError → String
  | missingColor => "missing color option"

/-- The greatest byte as a number. -/
def fullByte : Single := Binary.ofNat 255

/-- The number of a byte. -/
def ofByte (b : UInt8) : Single := Binary.ofNat b.toNat

/-- Validated settings of a blend. -/
structure Settings where
  /-- The color to blend toward, each channel from 0 to 1. -/
  target : Rgb Single
  /-- The channel of the mask that is read. -/
  channel : Channel
deriving DecidableEq, Repr

namespace Settings

/-- The settings of a color and a channel. -/
def ofColor (color : Color) (channel : Channel) : Settings :=
  ⟨color.map fun c => ofByte c / fullByte, channel.resolved⟩

/-- The settings of a user's choices. -/
def ofOptions (options : Options) : Except OptionsError Settings :=
  match options.color with
  | none => .error .missingColor
  | some color => .ok (ofColor color (options.channel.getD Channel.preset))

/-- The color to blend toward, each channel from 0 to 255. -/
def scaledTarget (s : Settings) : Rgb Single := s.target.map (· * fullByte)

end Settings

end Tint
