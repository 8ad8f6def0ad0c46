import Tint.Color
import Tint.Settings
import Tint.Stream

/-!
# The command line

What a user may write on the command line: options with a value, each at most once, and a
request for help or for the version. A value is the next argument, or stands after an equals
sign. The arguments are read in order, and the first thing that is wrong counts, but a
request for help or for the version that comes before it is granted.

## The model

* `Request` is what the program is to do with which files, `Command` all that a user can
  ask for.
* `Draft` holds the options read so far; `Draft.finish` checks that they make a request.
* `Command.parse` reads the arguments.
-/

namespace Tint

/-- Where the setup of the node comes from. -/
inductive Setup where
  /-- From the file at a path. -/
  | file (path : String)
  /-- From the command line. -/
  | flags (color : Color) (channel : Option Channel)
deriving DecidableEq, Repr

/-- A request to recolor a picture. -/
structure Request where
  /-- The path of the picture. -/
  image : String
  /-- The path of the mask. -/
  mask : String
  /-- The path of the result. -/
  out : String
  /-- The setup of the node. -/
  setup : Setup
  /-- The memory to work in, whatever the setup says of streams. -/
  backend : Option Residency
deriving DecidableEq, Repr

/-- What a user asks for. -/
inductive Command where
  /-- To recolor a picture. -/
  | recolor (request : Request)
  /-- To be told how to ask. -/
  | help
  /-- To be told the version. -/
  | version
deriving DecidableEq, Repr

/-- An option of the command line. -/
inductive Flag where
  /-- The path of the picture. -/
  | image
  /-- The path of the mask. -/
  | mask
  /-- The path of the result. -/
  | out
  /-- The path of a configuration. -/
  | config
  /-- The color to blend toward. -/
  | color
  /-- The channel of the mask. -/
  | maskChannel
  /-- The memory to work in. -/
  | backend
deriving DecidableEq, Repr

namespace Flag

/-- The name of an option. -/
def name : Flag → String
  | image => "--image"
  | mask => "--mask"
  | out => "--out"
  | config => "--config"
  | color => "--color"
  | maskChannel => "--mask-channel"
  | backend => "--backend"

/-- All options. -/
def all : List Flag := [image, mask, out, config, color, maskChannel, backend]

end Flag

/-- What is wrong with a command line. -/
inductive UsageError where
  /-- An argument is neither an option nor the value of one. -/
  | unexpected (argument : String)
  /-- An option has no value. -/
  | missingValue (flag : Flag)
  /-- A value is not one that the option may have. -/
  | badValue (flag : Flag) (value : String)
  /-- An option appears twice. -/
  | repeated (flag : Flag)
  /-- An option that is required does not appear. -/
  | required (flag : Flag)
  /-- An option appears beside a configuration that it would be a part of. -/
  | besideConfig (flag : Flag)
deriving DecidableEq, Repr

/-- The wording of the error. -/
def UsageError.text : UsageError → String
  | unexpected argument => "unexpected argument '" ++ argument ++ "'"
  | missingValue flag => "option '" ++ flag.name ++ "' needs a value"
  | badValue flag value => "'" ++ value ++ "' is not a value of option '" ++ flag.name ++ "'"
  | repeated flag => "option '" ++ flag.name ++ "' appears twice"
  | required flag => "option '" ++ flag.name ++ "' is required"
  | besideConfig flag => "option '" ++ flag.name ++ "' cannot be used with '--config'"

/-- The options read so far. -/
structure Draft where
  /-- The path of the picture. -/
  image : Option String := none
  /-- The path of the mask. -/
  mask : Option String := none
  /-- The path of the result. -/
  out : Option String := none
  /-- The path of a configuration. -/
  config : Option String := none
  /-- The color to blend toward. -/
  color : Option Color := none
  /-- The channel of the mask. -/
  channel : Option Channel := none
  /-- The memory to work in. -/
  backend : Option Residency := none
deriving DecidableEq, Repr

namespace Draft

/-- The option has been read. -/
def has (d : Draft) : Flag → Bool
  | .image => d.image.isSome
  | .mask => d.mask.isSome
  | .out => d.out.isSome
  | .config => d.config.isSome
  | .color => d.color.isSome
  | .maskChannel => d.channel.isSome
  | .backend => d.backend.isSome

/-- A path, which may not be empty. -/
def path? (value : String) : Option String := if value.isEmpty then none else some value

/-- The channel of a word. -/
def channel? (value : String) : Option Channel :=
  if value = "red" then some .red else if value = "alpha" then some .alpha else none

/-- The memory of a word. -/
def backend? (value : String) : Option Residency :=
  if value = "cpu" then some .cpu else if value = "gpu" then some .gpu else none

/-- The draft with an option set, if it may have the value. -/
def set? (d : Draft) (flag : Flag) (value : String) : Option Draft :=
  match flag with
  | .image => (path? value).map fun v => { d with image := some v }
  | .mask => (path? value).map fun v => { d with mask := some v }
  | .out => (path? value).map fun v => { d with out := some v }
  | .config => (path? value).map fun v => { d with config := some v }
  | .color => (Color.ofText value).toOption.map fun v => { d with color := some v }
  | .maskChannel => (channel? value).map fun v => { d with channel := some v }
  | .backend => (backend? value).map fun v => { d with backend := some v }

/-- The draft with one more option. -/
def add (d : Draft) (flag : Flag) (value : String) : Except UsageError Draft :=
  if d.has flag then .error (.repeated flag)
  else
    match d.set? flag value with
    | none => .error (.badValue flag value)
    | some d => .ok d

/-- The value of an option that is required. -/
def require {α : Type} (flag : Flag) : Option α → Except UsageError α
  | none => .error (.required flag)
  | some value => .ok value

/-- The setup of the node: a file, or a color and what belongs to it. -/
def setup (d : Draft) : Except UsageError Setup :=
  match d.config with
  | some path =>
    if d.color.isSome then .error (.besideConfig .color)
    else if d.channel.isSome then .error (.besideConfig .maskChannel)
    else .ok (.file path)
  | none => do return .flags (← require .color d.color) d.channel

/-- The request that the options make. -/
def finish (d : Draft) : Except UsageError Request := do
  let setup ← d.setup
  let image ← require .image d.image
  let mask ← require .mask d.mask
  let out ← require .out d.out
  return ⟨image, mask, out, setup, d.backend⟩

end Draft

/-- What an argument is that is not the value of an option before it. -/
inductive Argument where
  /-- An option whose value is the next argument. -/
  | pending (flag : Flag)
  /-- An option with its value. -/
  | attached (flag : Flag) (value : String)
  /-- A request for help. -/
  | help
  /-- A request for the version. -/
  | version
  /-- The end of the options. -/
  | divider
  /-- Anything else. -/
  | stray
deriving DecidableEq, Repr

namespace Argument

/-- The option of a name. -/
def flag? (name : List Char) : Option Flag := Flag.all.find? fun flag => flag.name.toList = name

/-- An argument that starts with two dashes: a name, and a value after an equals sign. -/
def long (argument : List Char) : Argument :=
  let name := argument.takeWhile (· ≠ '=')
  match flag? name, argument.drop name.length with
  | some flag, [] => .pending flag
  | some flag, _ :: value => .attached flag (String.ofList value)
  | none, _ =>
    if argument = "--help".toList then .help
    else if argument = "--version".toList then .version
    else .stray

/-- The kind of an argument. Letters after a single dash are requests, of which the first
one counts. -/
def classify (argument : String) : Argument :=
  match argument.toList with
  | ['-', '-'] => .divider
  | '-' :: '-' :: rest => long ('-' :: '-' :: rest)
  | '-' :: 'h' :: _ => .help
  | '-' :: 'V' :: _ => .version
  | _ => .stray

/-- The argument can be the value of the option before it: it does not start with a dash,
unless it is nothing else. -/
def isValue (argument : String) : Bool :=
  argument = "-" || argument.toList.head? ≠ some '-'

end Argument

namespace Command

/-- Read the arguments after those that made the draft. -/
def parseFrom (d : Draft) : List String → Except UsageError Command
  | [] => d.finish.map .recolor
  | argument :: rest =>
    match Argument.classify argument with
    | .help => .ok .help
    | .version => .ok .version
    | .attached flag value =>
      match d.add flag value with
      | .error e => .error e
      | .ok d => parseFrom d rest
    | .pending flag =>
      match rest with
      | [] => .error (.missingValue flag)
      | value :: rest =>
        if Argument.isValue value then
          match d.add flag value with
          | .error e => .error e
          | .ok d => parseFrom d rest
        else .error (.missingValue flag)
    | .divider =>
      match rest with
      | [] => d.finish.map .recolor
      | argument :: _ => .error (.unexpected argument)
    | .stray => .error (.unexpected argument)

/-- What the arguments of the program ask for. -/
def parse (arguments : List String) : Except UsageError Command := parseFrom {} arguments

end Command

end Tint
