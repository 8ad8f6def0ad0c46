import Tint.Proofs.Json.Collections

/-!
# Configurations come back from their text

A configuration is written as one compact text, and it is read from many: white space, the
order of members, the spelling of channels and what is left out may differ. Each way of reading a
part is matched with the way of writing it, from the names of streams up to the whole.

## What is proved

* `reads_tag`, `reads_channel`, `reads_color`, `reads_options`, `reads_config`: every part is
  read from its tree as it was written.
* `NodeConfig.ofJson_written`: a configuration is read from the lexemes of its text with any
  white space around them, so that writing what was read and reading it again changes nothing.
-/

namespace Tint

namespace Json

open Reader

/-! ### Parts -/

theorem reads_tag (t : StreamTag) : Reads readTag (tagTree t) t := by
  obtain ⟨role, residency⟩ := t
  cases role <;> cases residency <;> exact reads_named rfl

theorem reads_channel (c : Channel) : Reads readChannel (channelTree c) c := by
  cases c <;> exact reads_named rfl

theorem reads_color (c : Color) : Reads colorRecord.read (colorTree c) c := by
  refine Record.reads ⟨some c.r, some c.g, some c.b⟩ ?_ rfl
  exact .cons rfl rfl ((reads_byte c.r).map _) <| .cons rfl rfl ((reads_byte c.g).map _) <|
    .cons rfl rfl ((reads_byte c.b).map _) <| .nil _

theorem reads_options (o : Options) : Reads optionsRecord.read (optionsTree o) o := by
  have color := reads_optional (o := o.color) (fun c _ => reads_color c) nofun
  have channel := reads_optional (o := o.channel) (fun c _ => reads_channel c) nofun
  refine Record.reads ⟨some o.color, some o.channel⟩ ?_ rfl
  exact .cons rfl rfl (color.map _) <| .cons rfl rfl (channel.map _) <| .nil _

theorem reads_config (c : NodeConfig) : Reads configRecord.read (configTree c) c := by
  have inputs := reads_array c.inputs fun t _ => reads_tag t
  have outputs := reads_array c.outputs fun t _ => reads_tag t
  refine Record.reads ⟨some c.inputs, some c.outputs, some c.options⟩ ?_ rfl
  exact .cons rfl rfl (inputs.map _) <| .cons rfl rfl (outputs.map _) <|
    .cons rfl rfl ((reads_options c.options).map _) <| .nil _

end Json

namespace NodeConfig

open Json

/-! ### Whole texts -/

/-- The text is read with any white space in its gaps. -/
theorem ofJson_weave (c : NodeConfig) (gap : Nat → List Char)
    (blank : ∀ i, ∀ ch ∈ gap i, Reader.isSpace ch = true) :
    ofJson (String.ofList (weave gap (configTree c).lexemes)) = .ok c := by
  have taken := reads_config c [] nofun
  rw [List.append_nil] at taken
  refine Reader.ofText_of_takes taken ?_
  rw [String.toList_ofList]
  exact spaced_weave blank _

/-- The compact text has empty gaps. -/
theorem ofJson_toJson (c : NodeConfig) : ofJson c.toJson = .ok c := by
  have taken := ofJson_weave c (fun _ => []) nofun
  rwa [weave_nil] at taken

/-- **A configuration comes back from its text.** It does so from its compact text and from the
same lexemes with any white space before, between and after them. Whatever text a configuration
was read from, its compact text is read as the same one, and a text that was refused is refused as
before. -/
theorem ofJson_written :
    (∀ (c : NodeConfig) (gap : Nat → List Char),
      (∀ i, ∀ ch ∈ gap i, Reader.isSpace ch = true) →
      ofJson (String.ofList (weave gap (configTree c).lexemes)) = .ok c) ∧
    (∀ c : NodeConfig, ofJson c.toJson = .ok c) ∧
    ∀ text, (ofJson text >>= fun c => ofJson c.toJson) = ofJson text := by
  refine ⟨ofJson_weave, ofJson_toJson, fun text => ?_⟩
  cases ofJson text with
  | error failure => rfl
  | ok c =>
    simp only [bind, Except.bind]
    exact ofJson_toJson c

/-- A setup of one stream coming in, weighed by alpha, that leaves the color open. -/
def alphaSetup : NodeConfig where
  inputs := [⟨.image, .cpu⟩]
  outputs := []
  options := { channel := some .alpha }

/-- A new line before every fourth lexeme. -/
def sparseGap (i : Nat) : List Char := if i % 4 = 0 then ['\n', ' '] else []

/-- The text of the setup with new lines. -/
def alphaText : String :=
  "\n \x7b\"inputs\":[\n \"IMAGE\"],\"outputs\"\n :[],\n " ++
    "\"options\":\x7b\"color\"\n :null,\"mask_channel\"\n :\"ALPHA\"\x7d\x7d\n "

/-- A setup is read from a text of several lines. -/
theorem ofJson_written_alphaSetup : ofJson alphaText = .ok alphaSetup := by
  have written : String.ofList (weave sparseGap (configTree alphaSetup).lexemes) = alphaText := rfl
  have blank (i : Nat) : ∀ ch ∈ sparseGap i, Reader.isSpace ch = true := by
    rw [sparseGap]
    split <;> simp [Reader.isSpace]
  rw [← written]
  exact ofJson_written.1 alphaSetup sparseGap blank

-- Another text of the same setup: in another order, a channel in lower case, and no color at all.
example : ofJson ("\x7b\"options\": \x7b\"mask_channel\": \"alpha\"\x7d, \"outputs\": [], " ++
    "\"inputs\": [\"IMAGE\"]\x7d") = .ok alphaSetup := by
  decide +kernel

end NodeConfig

end Tint
