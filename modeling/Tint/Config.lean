import Tint.Json.Record
import Tint.Json.Tree
import Tint.Frame
import Tint.Settings
import Tint.Stream
import Tint.Timestamp

/-!
# The configuration of a node

A configuration binds a node to its streams and carries the choices of the user. It is
written in JSON: names of streams and channels are strings, and what may be left out may
also be null. Every value below is read and written in the same words.
-/

namespace Tint

/-- The setup of a node. -/
structure NodeConfig where
  /-- The streams coming in. -/
  inputs : List StreamTag
  /-- The streams going out. -/
  outputs : List StreamTag
  /-- The choices of the user. -/
  options : Options := {}
deriving DecidableEq, Repr

/-- The streams of a configuration. -/
def NodeConfig.binding (c : NodeConfig) : Binding := ⟨c.inputs, c.outputs⟩

namespace Json

/-! ### Names -/

/-- The names of streams. -/
def tagNames : List (String × StreamTag) := StreamTag.all.map fun t => (t.name, t)

/-- The names of channels; each may also be written in lower case. -/
def channelNames : List (String × Channel) :=
  [("UNKNOWN", .unknown), ("unknown", .unknown), ("RED", .red), ("red", .red),
   ("ALPHA", .alpha), ("alpha", .alpha)]

/-- The names of layouts. -/
def layoutNames : List (String × PixelLayout) :=
  [PixelLayout.gray, .rgb, .rgba].map fun l => (l.name, l)

/-- The name that a channel is written with. -/
def channelName : Channel → String
  | .unknown => "UNKNOWN"
  | .red => "RED"
  | .alpha => "ALPHA"

/-! ### Reading -/

/-- Read a stream. -/
def readTag : Reader StreamTag := Reader.oneName tagNames

/-- Read a channel. -/
def readChannel : Reader Channel := Reader.oneName channelNames

/-- Read a layout. -/
def readLayout : Reader PixelLayout := Reader.oneName layoutNames

/-- Read a timestamp, its microseconds. -/
def readTimestamp : Reader Timestamp := do
  let n ← Reader.integerWithin (-9223372036854775808) 9223372036854775807 "i64"
  return Timestamp.clamp n

/-- A channel of a color, which has to be there. -/
def colorMember (name : String) (get : Rgb (Option UInt8) → Option UInt8)
    (set : Rgb (Option UInt8) → UInt8 → Rgb (Option UInt8)) : Member (Rgb (Option UInt8)) where
  name := name
  required := true
  present draft := (get draft).isSome
  read draft := set draft <$> Reader.byte

/-- How a color is written. -/
def colorRecord : Record (Rgb (Option UInt8)) Color where
  name := "RgbColor"
  members :=
    [colorMember "r" (·.r) (fun d v => { d with r := some v }),
     colorMember "g" (·.g) (fun d v => { d with g := some v }),
     colorMember "b" (·.b) (fun d v => { d with b := some v })]
  isOpen := true
  empty := ⟨none, none, none⟩
  finish draft := return ⟨← draft.r, ← draft.g, ← draft.b⟩

/-- Choices of a user as far as they are read. -/
structure OptionsDraft where
  /-- The color, which may be null. -/
  color : Option (Option Color) := none
  /-- The channel, which may be null. -/
  channel : Option (Option Channel) := none

/-- How the choices of a user are written. -/
def optionsRecord : Record OptionsDraft Options where
  name := "RecolorOptions"
  members :=
    [{ name := "color"
       required := false
       present := fun draft => draft.color.isSome
       read := fun draft => do
         return { draft with color := some (← Reader.optional colorRecord.read) } },
     { name := "mask_channel"
       required := false
       present := fun draft => draft.channel.isSome
       read := fun draft => do
         return { draft with channel := some (← Reader.optional readChannel) } }]
  isOpen := false
  empty := {}
  finish draft := some ⟨draft.color.join, draft.channel.join⟩

/-- A configuration as far as it is read. -/
structure ConfigDraft where
  /-- The streams coming in. -/
  inputs : Option (List StreamTag) := none
  /-- The streams going out. -/
  outputs : Option (List StreamTag) := none
  /-- The choices of the user. -/
  options : Option Options := none

/-- How a configuration is written. -/
def configRecord : Record ConfigDraft NodeConfig where
  name := "NodeConfig"
  members :=
    [{ name := "inputs"
       required := true
       present := fun draft => draft.inputs.isSome
       read := fun draft => do
         return { draft with inputs := some (← Reader.array readTag) } },
     { name := "outputs"
       required := true
       present := fun draft => draft.outputs.isSome
       read := fun draft => do
         return { draft with outputs := some (← Reader.array readTag) } },
     { name := "options"
       required := false
       present := fun draft => draft.options.isSome
       read := fun draft => do
         return { draft with options := some (← optionsRecord.read) } }]
  isOpen := false
  empty := {}
  finish draft := return ⟨← draft.inputs, ← draft.outputs, draft.options.getD {}⟩

/-! ### Writing -/

/-- A name as a tree. -/
def nameTree (name : String) : Tree := .string name.toList

/-- A stream as a tree. -/
def tagTree (t : StreamTag) : Tree := nameTree t.name

/-- A channel as a tree. -/
def channelTree (c : Channel) : Tree := nameTree (channelName c)

/-- A layout as a tree. -/
def layoutTree (l : PixelLayout) : Tree := nameTree l.name

/-- A timestamp as a tree. -/
def timestampTree (t : Timestamp) : Tree := .integer t.micros

/-- A color as a tree. -/
def colorTree (c : Color) : Tree :=
  .object [(['r'], .integer c.r.toNat), (['g'], .integer c.g.toNat), (['b'], .integer c.b.toNat)]

/-- A value that may be missing as a tree. -/
def optionTree {α : Type} (tree : α → Tree) : Option α → Tree
  | none => .null
  | some a => tree a

/-- Choices of a user as a tree. -/
def optionsTree (o : Options) : Tree :=
  .object [("color".toList, optionTree colorTree o.color),
    ("mask_channel".toList, optionTree channelTree o.channel)]

/-- A configuration as a tree. -/
def configTree (c : NodeConfig) : Tree :=
  .object [("inputs".toList, .array (c.inputs.map tagTree)),
    ("outputs".toList, .array (c.outputs.map tagTree)),
    ("options".toList, optionsTree c.options)]

end Json

namespace NodeConfig

/-- The configuration that a JSON text writes. -/
def ofJson (text : String) : Except Json.Failure NodeConfig :=
  Json.configRecord.read.ofText text

/-- The JSON text of a configuration. -/
def toJson (c : NodeConfig) : String := String.ofList (Json.configTree c).text

end NodeConfig

end Tint
