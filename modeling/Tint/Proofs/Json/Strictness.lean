import Tint.Config
import Tint.Fault
import Tint.Proofs.Json.Members

/-!
# What a configuration must not have

A configuration is read strictly: it has no members but the declared ones, and each of them once.
Only a color may have other members, which say nothing. The order of members says nothing either.

## The model

* `colorSchema`, `optionsSchema` and `configSchema` are the records of a configuration with what
  their members are read as.
* `Offends d` lists what the value `d` of a text must not have, at the level of the configuration,
  of its options and of their color.
* `Rearranged ms ms'` says that the members `ms'` are `ms` in another order, at all three levels,
  and that the color may have got members of other names.

## What is proved

* `config_of_offends`: nothing is read from a value that offends, wherever it does and whatever else
  it has.
* `config_of_rearranged`: what is read from rearranged members is the same.
* `NodeConfig.ofJson_strict`: both for every text with such a value.
-/

namespace Tint

namespace Json

open Reader

/-! ### The records -/

/-- A channel of a color. -/
def colorPart (name : String) (get : Rgb (Option UInt8) → Option UInt8)
    (set : Rgb (Option UInt8) → UInt8 → Rgb (Option UInt8)) : Part (Rgb (Option UInt8)) where
  member := colorMember name get set
  kind := UInt8
  decode := Doc.byte?
  set := set
  decodes draft := decodes_byte.map (set draft)

/-- What a color is read as. -/
def colorSchema : Schema (Rgb (Option UInt8)) Color where
  record := colorRecord
  parts :=
    [colorPart "r" (·.r) fun d v => { d with r := some v },
     colorPart "g" (·.g) fun d v => { d with g := some v },
     colorPart "b" (·.b) fun d v => { d with b := some v }]
  members_eq := rfl

/-- The color that a user has chosen. -/
def colorChoice : Part OptionsDraft where
  member := optionsRecord.members[0]
  kind := Option Color
  decode := Doc.optional? colorSchema.decode
  set draft color := { draft with color := some color }
  decodes _ := (decodes_optional colorSchema.decodes).map _

/-- The channel that a user has chosen. -/
def channelChoice : Part OptionsDraft where
  member := optionsRecord.members[1]
  kind := Option Channel
  decode := Doc.optional? (Doc.name? channelNames)
  set draft channel := { draft with channel := some channel }
  decodes _ := (decodes_optional (decodes_oneName channelNames)).map _

/-- What the choices of a user are read as. -/
def optionsSchema : Schema OptionsDraft Options where
  record := optionsRecord
  parts := [colorChoice, channelChoice]
  members_eq := rfl

/-- The streams coming in. -/
def inputsPart : Part ConfigDraft where
  member := configRecord.members[0]
  kind := List StreamTag
  decode := Doc.all? (Doc.name? tagNames)
  set draft tags := { draft with inputs := some tags }
  decodes _ := (decodes_array (decodes_oneName tagNames)).map _

/-- The streams going out. -/
def outputsPart : Part ConfigDraft where
  member := configRecord.members[1]
  kind := List StreamTag
  decode := Doc.all? (Doc.name? tagNames)
  set draft tags := { draft with outputs := some tags }
  decodes _ := (decodes_array (decodes_oneName tagNames)).map _

/-- The choices of the user. -/
def optionsPart : Part ConfigDraft where
  member := configRecord.members[2]
  kind := Options
  decode := optionsSchema.decode
  set draft options := { draft with options := some options }
  decodes _ := optionsSchema.decodes.map _

/-- What a configuration is read as. -/
def configSchema : Schema ConfigDraft NodeConfig where
  record := configRecord
  parts := [inputsPart, outputsPart, optionsPart]
  members_eq := rfl

/-! ### The parts have places of their own -/

theorem colorSchema_tidy : colorSchema.Tidy where
  separate := by
    simp only [colorSchema, List.pairwise_cons, List.forall_mem_cons]
    exact ⟨⟨⟨by decide, fun _ _ => rfl, fun _ _ => rfl, fun _ _ _ => rfl⟩,
      ⟨by decide, fun _ _ => rfl, fun _ _ => rfl, fun _ _ _ => rfl⟩, nofun⟩,
      ⟨⟨by decide, fun _ _ => rfl, fun _ _ => rfl, fun _ _ _ => rfl⟩, nofun⟩, nofun, .nil⟩
  present_set := by
    simp only [colorSchema, List.forall_mem_cons]
    exact ⟨fun _ _ => rfl, fun _ _ => rfl, fun _ _ => rfl, nofun⟩
  empty_absent := by
    simp only [colorSchema, List.forall_mem_cons]
    exact ⟨rfl, rfl, rfl, nofun⟩

theorem optionsSchema_tidy : optionsSchema.Tidy where
  separate := by
    simp only [optionsSchema, List.pairwise_cons, List.forall_mem_cons]
    exact ⟨⟨⟨by decide, fun _ _ => rfl, fun _ _ => rfl, fun _ _ _ => rfl⟩, nofun⟩, nofun, .nil⟩
  present_set := by
    simp only [optionsSchema, List.forall_mem_cons]
    exact ⟨fun _ _ => rfl, fun _ _ => rfl, nofun⟩
  empty_absent := by
    simp only [optionsSchema, List.forall_mem_cons]
    exact ⟨rfl, rfl, nofun⟩

theorem configSchema_tidy : configSchema.Tidy where
  separate := by
    simp only [configSchema, List.pairwise_cons, List.forall_mem_cons]
    exact ⟨⟨⟨by decide, fun _ _ => rfl, fun _ _ => rfl, fun _ _ _ => rfl⟩,
      ⟨by decide, fun _ _ => rfl, fun _ _ => rfl, fun _ _ _ => rfl⟩, nofun⟩,
      ⟨⟨by decide, fun _ _ => rfl, fun _ _ => rfl, fun _ _ _ => rfl⟩, nofun⟩, nofun, .nil⟩
  present_set := by
    simp only [configSchema, List.forall_mem_cons]
    exact ⟨fun _ _ => rfl, fun _ _ => rfl, fun _ _ => rfl, nofun⟩
  empty_absent := by
    simp only [configSchema, List.forall_mem_cons]
    exact ⟨rfl, rfl, rfl, nofun⟩

/-! ### What offends -/

/-- The names of the members of a configuration. -/
def configNames : List String := ["inputs", "outputs", "options"]

/-- The names of the choices of a user. -/
def optionNames : List String := ["color", "mask_channel"]

/-- The names of the channels of a color. -/
def colorNames : List String := ["r", "g", "b"]

/-- The value is a whole number from 0 to 255, written without sign, fraction and exponent. -/
def IsByte (v : Doc) : Prop := ∃ n k, v = .number n ∧ n.natural? = some k ∧ k ≤ 255

/-- The string writes none of the names. -/
def Unlisted (names : List String) (w : Written) : Prop := ∀ known ∈ names, ¬ w.Spells known

/-- What a color must not have. -/
inductive OffendingColor (c : Doc) : Prop
  /-- A channel appears twice. -/
  | repeats (twice : c.Repeats colorNames)
  /-- A channel is missing from a color that is there. -/
  | lacks {name : String} (value : c ≠ .null) (declared : name ∈ colorNames)
      (absent : c.Lacks colorNames name)
  /-- A channel is not a byte. -/
  | channel {name : String} {v : Doc} (declared : name ∈ colorNames)
      (holds : c.Holds colorNames name v) (other : ¬ IsByte v)

/-- What the choices of a user must not have. -/
inductive OffendingOptions (o : Doc) : Prop
  /-- There is a member of another name. -/
  | strays (other : o.Strays optionNames)
  /-- A member appears twice. -/
  | repeats (twice : o.Repeats optionNames)
  /-- A string that should name a channel names none. -/
  | channel {w : Written} (holds : o.Holds optionNames "mask_channel" (.string w))
      (other : Unlisted (channelNames.map (·.1)) w)
  /-- The color offends. -/
  | color {c : Doc} (holds : o.Holds optionNames "color" c) (offends : OffendingColor c)

/-- What a configuration must not have. -/
inductive Offends (d : Doc) : Prop
  /-- There is a member of another name. -/
  | strays (other : d.Strays configNames)
  /-- A member appears twice. -/
  | repeats (twice : d.Repeats configNames)
  /-- The streams of one direction are missing. -/
  | lacks {name : String} (streams : name ∈ ["inputs", "outputs"])
      (absent : d.Lacks configNames name)
  /-- A string that should name a stream names none. -/
  | stream {name : String} {ds : List Doc} {w : Written} (streams : name ∈ ["inputs", "outputs"])
      (holds : d.Holds configNames name (.array ds)) (listed : .string w ∈ ds)
      (other : Unlisted (tagNames.map (·.1)) w)
  /-- The choices of the user offend. -/
  | options {o : Doc} (holds : d.Holds configNames "options" o) (offends : OffendingOptions o)

theorem name?_of_unlisted {α : Type} {table : List (String × α)} {w : Written}
    (other : Unlisted (table.map (·.1)) w) : Doc.name? table (.string w) = none := by
  rw [Doc.name?]
  cases content : w.content with
  | none => rfl
  | some name =>
    rw [Option.bind_some, lookup, Option.map_eq_none_iff, List.find?_eq_none]
    intro entry listed same
    refine other entry.1 (List.mem_map.2 ⟨entry, listed, rfl⟩) ?_
    rw [Written.Spells, content, of_decide_eq_true same]

theorem byte?_of_other {v : Doc} (other : ¬ IsByte v) : v.byte? = none := by
  cases v with
  | number n =>
    rw [Doc.byte?]
    cases whole : (Doc.number n).natural? with
    | none => rfl
    | some k =>
      rw [Option.bind_some, if_neg fun small => other ⟨n, k, rfl, whole, small⟩]
  | _ => rfl

/-- A value that is not read stops an array. -/
theorem all?_of_mem {α : Type} {decode : Doc → Option α} {ds : List Doc} {d : Doc} (listed : d ∈ ds)
    (wrong : decode d = none) : Doc.all? decode (.array ds) = none := by
  rw [Doc.all?]
  induction ds with
  | nil => cases listed
  | cons first ds ih =>
    rw [List.mapM_cons]
    rcases List.mem_cons.1 listed with rfl | listed
    · rw [wrong]
      rfl
    · rw [ih listed]
      cases decode first <;> rfl

theorem optional?_of_ne {α : Type} {decode : Doc → Option α} {d : Doc} (value : d ≠ .null)
    (wrong : decode d = none) : d.optional? decode = none := by
  cases d with
  | null => exact absurd rfl value
  | _ => simp only [Doc.optional?, wrong, Option.map_none]

theorem color_of_offends {c : Doc} (offends : OffendingColor c) :
    c ≠ .null ∧ colorSchema.decode c = none := by
  have tidy := colorSchema_tidy
  cases offends with
  | repeats twice =>
    obtain ⟨ms, rfl, -⟩ := id twice
    exact ⟨nofun, Schema.decode_of_repeats tidy twice⟩
  | @lacks name value declared absent =>
    obtain ⟨p, mem, rfl⟩ := List.mem_map.1 (show name ∈ colorSchema.names from declared)
    have required : p.member.required = true := by
      simp only [colorSchema, List.mem_cons, List.not_mem_nil, or_false] at mem
      rcases mem with rfl | rfl | rfl <;> rfl
    exact ⟨value, Schema.decode_of_lacks tidy mem required absent⟩
  | @channel name v declared holds other =>
    obtain ⟨p, mem, rfl⟩ := List.mem_map.1 (show name ∈ colorSchema.names from declared)
    have wrong : p.decode v = none := by
      simp only [colorSchema, List.mem_cons, List.not_mem_nil, or_false] at mem
      rcases mem with rfl | rfl | rfl <;> exact byte?_of_other other
    have value : c ≠ .null := by
      rintro rfl
      cases holds
    exact ⟨value, Schema.decode_of_holds tidy mem holds wrong⟩

theorem options_of_offends {o : Doc} (offends : OffendingOptions o) :
    optionsSchema.decode o = none := by
  have tidy := optionsSchema_tidy
  cases offends with
  | strays other => exact Schema.decode_of_strays rfl other
  | repeats twice => exact Schema.decode_of_repeats tidy twice
  | @channel w holds other =>
    have wrong : (Doc.string w).optional? (Doc.name? channelNames) = none :=
      optional?_of_ne nofun (name?_of_unlisted other)
    exact Schema.decode_of_holds tidy (p := channelChoice) (by simp [optionsSchema]) holds wrong
  | color holds offends =>
    obtain ⟨value, wrong⟩ := color_of_offends offends
    refine Schema.decode_of_holds tidy (p := colorChoice) (by simp [optionsSchema]) holds ?_
    exact optional?_of_ne value wrong

/-- **Nothing is read from a value that offends**, wherever it does and whatever else it has. -/
theorem config_of_offends {d : Doc} (offends : Offends d) : configSchema.decode d = none := by
  have tidy := configSchema_tidy
  cases offends with
  | strays other => exact Schema.decode_of_strays rfl other
  | repeats twice => exact Schema.decode_of_repeats tidy twice
  | lacks streams absent =>
    simp only [List.mem_cons, List.not_mem_nil, or_false] at streams
    rcases streams with rfl | rfl
    · exact Schema.decode_of_lacks tidy (p := inputsPart) (by simp [configSchema]) rfl absent
    · exact Schema.decode_of_lacks tidy (p := outputsPart) (by simp [configSchema]) rfl absent
  | @stream name ds w streams holds listed other =>
    have wrong : Doc.all? (Doc.name? tagNames) (.array ds) = none :=
      all?_of_mem listed (name?_of_unlisted other)
    simp only [List.mem_cons, List.not_mem_nil, or_false] at streams
    rcases streams with rfl | rfl
    · exact Schema.decode_of_holds tidy (p := inputsPart) (by simp [configSchema]) holds wrong
    · exact Schema.decode_of_holds tidy (p := outputsPart) (by simp [configSchema]) holds wrong
  | options holds offends =>
    refine Schema.decode_of_holds tidy (p := optionsPart) (by simp [configSchema]) holds ?_
    exact options_of_offends offends

/-! ### What says nothing -/

/-- A color whose members are the same in any order, and others with names that say nothing. -/
inductive SameColor : Doc → Doc → Prop
  /-- The value itself. -/
  | refl (c : Doc) : SameColor c c
  /-- The members of an object in any order, and others. -/
  | members {cs cs' added : List (Written × Doc)} (perm : cs'.Perm (cs ++ added))
      (other : ∀ m ∈ added, ∃ name, m.1.content = some name ∧
        ∀ known ∈ colorNames, name ≠ known.toList) : SameColor (.object cs) (.object cs')

/-- The value of a choice, if it is the color with the same color. -/
def SameChoice (key : Written) (d d' : Doc) : Prop :=
  if key.Spells "color" then SameColor d d' else d = d'

/-- Choices of a user whose members are the same in any order. -/
inductive SameOptions : Doc → Doc → Prop
  /-- The value itself. -/
  | refl (o : Doc) : SameOptions o o
  /-- The members of an object in any order. -/
  | members {os os' : List (Written × Doc)} (reordered : Reordered SameChoice os os') :
      SameOptions (.object os) (.object os')
  /-- The elements of an array, the first of which is the color. -/
  | elements {c c' : Doc} {ds : List Doc} (color : SameColor c c') :
      SameOptions (.array (c :: ds)) (.array (c' :: ds))

/-- The value of a member, if it is the choices with the same choices. -/
def SameMember (key : Written) (d d' : Doc) : Prop :=
  if key.Spells "options" then SameOptions d d' else d = d'

/-- The members of a configuration in any order, at all levels. -/
def Rearranged : List (Written × Doc) → List (Written × Doc) → Prop := Reordered SameMember

theorem color_of_same {c c' : Doc} (same : SameColor c c') :
    colorSchema.decode c = colorSchema.decode c' := by
  cases same with
  | refl => rfl
  | members perm other =>
    rw [Schema.decode_perm colorSchema_tidy perm]
    refine (Schema.decode_append rfl fun m mem => ?_).symm
    obtain ⟨name, content, strays⟩ := other m mem
    exact ⟨name, content, Schema.part?_eq_none strays⟩

/-- A color that is the same is null as the other one is. -/
theorem optional_of_same {c c' : Doc} (same : SameColor c c') :
    c.optional? colorSchema.decode = c'.optional? colorSchema.decode := by
  have read := color_of_same same
  cases same with
  | refl => rfl
  | members perm other => simp only [Doc.optional?, read]

theorem options_of_same {o o' : Doc} (same : SameOptions o o') :
    optionsSchema.decode o = optionsSchema.decode o' := by
  cases same with
  | refl => rfl
  | members reordered =>
    refine Schema.decode_reordered optionsSchema_tidy reordered ?_
    intro key d d' name p related content found
    obtain ⟨mem, rfl⟩ := Schema.part?_spec found
    simp only [optionsSchema, List.mem_cons, List.not_mem_nil, or_false] at mem
    rcases mem with rfl | rfl
    · have color : key.Spells "color" := content
      rw [SameChoice, if_pos color] at related
      exact optional_of_same related
    · have other : ¬ key.Spells "color" := by
        rw [Written.Spells, content]
        decide
      rw [SameChoice, if_neg other] at related
      rw [related]
  | elements color =>
    have read : colorChoice.decode _ = colorChoice.decode _ := optional_of_same color
    simp only [Schema.decode, optionsSchema, Schema.fill, read]

/-- **What is read from rearranged members is the same.** -/
theorem config_of_rearranged {ms ms' : List (Written × Doc)} (rearranged : Rearranged ms ms') :
    configSchema.decode (.object ms) = configSchema.decode (.object ms') := by
  refine Schema.decode_reordered configSchema_tidy rearranged ?_
  intro key d d' name p related content found
  obtain ⟨mem, rfl⟩ := Schema.part?_spec found
  by_cases options : key.Spells "options"
  · rw [SameMember, if_pos options] at related
    rw [options, Option.some.injEq, String.toList_inj] at content
    have part : p = optionsPart := by
      simp only [configSchema, List.mem_cons, List.not_mem_nil, or_false] at mem
      rcases mem with rfl | rfl | rfl
      · exact absurd content (by decide)
      · exact absurd content (by decide)
      · rfl
    subst part
    exact options_of_same related
  · rw [SameMember, if_neg options] at related
    rw [related]

end Json

namespace NodeConfig

open Json

/-- What is read from a text is what is read from the value that it writes. -/
theorem ofJson_toOption {d : Doc} {text : String} (spaced : Spaced d.lexemes text.toList) :
    (ofJson text).toOption = configSchema.decode d := by
  have answers := configSchema.decodes d [] nofun
  rw [List.append_nil] at answers
  exact Reader.ofText_of_answers answers spaced

/-- **A configuration is read strictly, and in any order.** -/
theorem ofJson_strict {members : List (Written × Doc)} {text : String}
    (spaced : Spaced (Doc.object members).lexemes text.toList) :
    (Offends (.object members) → ∃ failure, ofJson text = .error failure ∧
      (Fault.config failure).kind = .serialization) ∧
    ∀ members' text', Rearranged members members' →
      Spaced (Doc.object members').lexemes text'.toList →
      ∀ c, ofJson text = .ok c → ofJson text' = .ok c := by
  have read := ofJson_toOption spaced
  refine ⟨fun offends => ?_, fun members' text' rearranged spaced' c ok => ?_⟩
  · rw [config_of_offends offends] at read
    cases result : ofJson text with
    | error failure => exact ⟨failure, rfl, rfl⟩
    | ok c =>
      rw [result] at read
      cases read
  · have read' := ofJson_toOption spaced'
    rw [← config_of_rearranged rearranged, ← read, ok] at read'
    cases result : ofJson text' with
    | error failure =>
      rw [result] at read'
      cases read'
    | ok c' =>
      rw [result] at read'
      cases read'
      rfl

/-- A name without escapes. -/
def plainName (name : String)
    (solid : (name.toList.all fun c => c ≠ '"' ∧ c ≠ '\\' ∧ ¬ c < ' ') = true := by decide) :
    Written :=
  ⟨name.toList.pmap Piece.plain fun c listed =>
    of_decide_eq_true (List.all_eq_true.1 solid c listed)⟩

/-- A number of one digit. -/
def oneDigit (c : Char) (digit : isDigit c = true := by decide) : Doc :=
  .number {
    negative := false
    whole := ⟨[c], nofun, by simpa using digit⟩
    single := fun w chars => (List.cons.inj chars).2.symm
    fraction := none
    exponent := none }

/-- A color with its channels in order. -/
def redMembers : List (Written × Doc) :=
  [(plainName "r", oneDigit '9'), (plainName "g", oneDigit '0'), (plainName "b", oneDigit '0')]

/-- The color with a fourth member. -/
def fourMembers : List (Written × Doc) := (plainName "a", .null) :: redMembers

/-- A setup of a color, with the streams first. -/
def streamsFirst (color : List (Written × Doc)) : List (Written × Doc) :=
  [(plainName "inputs", .array []), (plainName "outputs", .array []),
   (plainName "options", .object [(plainName "color", .object color)])]

/-- A setup of a color, with the choices first. -/
def choicesFirst (color : List (Written × Doc)) : List (Written × Doc) :=
  [(plainName "options", .object [(plainName "color", .object color)]),
   (plainName "inputs", .array []), (plainName "outputs", .array [])]

/-- The choices may come first, and the color may have a fourth member. -/
theorem rearranged_choicesFirst :
    Rearranged (streamsFirst redMembers) (choicesFirst fourMembers) := by
  have other : ∀ m ∈ [(plainName "a", Doc.null)], ∃ name, m.1.content = some name ∧
      ∀ known ∈ colorNames, name ≠ known.toList := by
    rw [List.forall_mem_singleton]
    exact ⟨['a'], by decide, by decide⟩
  have color : SameColor (.object redMembers) (.object fourMembers) :=
    .members (@List.perm_append_comm _ [_] redMembers) other
  have choice : SameChoice (plainName "color") (.object redMembers) (.object fourMembers) := by
    rwa [SameChoice, if_pos (by decide)]
  have options : SameMember (plainName "options")
      (.object [(plainName "color", .object redMembers)])
      (.object [(plainName "color", .object fourMembers)]) := by
    rw [SameMember, if_pos (by decide)]
    exact .members ⟨[(_, .object fourMembers)], .cons ⟨rfl, choice⟩ .nil, .rfl⟩
  have streams (key : Written) (d : Doc) (name : ¬ key.Spells "options") : SameMember key d d := by
    rw [SameMember, if_neg name]
  exact ⟨streamsFirst fourMembers, .cons ⟨rfl, streams _ _ (by decide)⟩ <|
    .cons ⟨rfl, streams _ _ (by decide)⟩ <| .cons ⟨rfl, options⟩ .nil,
    @List.perm_append_comm _ [_, _] [_]⟩

/-- The setup. -/
def redSetup : NodeConfig where
  inputs := []
  outputs := []
  options := { color := some ⟨9, 0, 0⟩ }

/-- A setup with a member of another name after its own. -/
def strayMembers : List (Written × Doc) := streamsFirst redMembers ++ [(plainName "extra", .null)]

/-- A setup with a color that ends with its first channel again. -/
def redAgain : List (Written × Doc) := streamsFirst (redMembers ++ [(plainName "r", oneDigit '9')])

theorem offends_strayMembers : Offends (.object strayMembers) :=
  .strays ⟨_, rfl, (plainName "extra", .null), by simp [strayMembers], by decide⟩

theorem offends_redAgain : Offends (.object redAgain) := by
  have color : OffendingColor (.object (redMembers ++ [(plainName "r", oneDigit '9')])) :=
    .repeats ⟨_, rfl, "r", by decide, by decide⟩
  have options : OffendingOptions (.object [(plainName "color",
      .object (redMembers ++ [(plainName "r", oneDigit '9')]))]) :=
    .color (.member List.mem_cons_self (by decide)) color
  refine .options (.member (m := (plainName "options", _)) ?_ (by decide)) options
  simp [redAgain, streamsFirst]

/-- A setup is read from its members in another order, but neither without its streams, nor with an
unknown member after all the others, nor with a channel again at the end of its color. -/
theorem ofJson_strict_redSetup :
    ofJson ("\x7b\"options\":\x7b\"color\":\x7b\"a\":null,\"r\":9,\"g\":0,\"b\":0\x7d\x7d," ++
      "\"inputs\":[],\"outputs\":[]\x7d") = .ok redSetup ∧
    ∀ text ∈ ["\x7b\x7d",
        "\x7b\"inputs\":[],\"outputs\":[],\"options\":\x7b\"color\":" ++
          "\x7b\"r\":9,\"g\":0,\"b\":0\x7d\x7d,\"extra\":null\x7d",
        "\x7b\"inputs\":[],\"outputs\":[],\"options\":\x7b\"color\":" ++
          "\x7b\"r\":9,\"g\":0,\"b\":0,\"r\":9\x7d\x7d\x7d"],
      ∃ failure, ofJson text = .error failure ∧ (Fault.config failure).kind = .serialization := by
  have ordered : Spaced (Doc.object (streamsFirst redMembers)).lexemes
      ("\x7b\"inputs\":[],\"outputs\":[],\"options\":\x7b\"color\":" ++
        "\x7b\"r\":9,\"g\":0,\"b\":0\x7d\x7d\x7d").toList :=
    spaced_flatten (Doc.object (streamsFirst redMembers)).lexemes
  have reordered : Spaced (Doc.object (choicesFirst fourMembers)).lexemes
      ("\x7b\"options\":\x7b\"color\":\x7b\"a\":null,\"r\":9,\"g\":0,\"b\":0\x7d\x7d," ++
        "\"inputs\":[],\"outputs\":[]\x7d").toList :=
    spaced_flatten (Doc.object (choicesFirst fourMembers)).lexemes
  have absent : (Doc.object []).Lacks configNames "inputs" := by
    rintro v (⟨listed, -⟩ | _)
    cases listed
  refine ⟨(ofJson_strict ordered).2 _ _ rearranged_choicesFirst reordered redSetup
    (by decide +kernel), ?_⟩
  simp only [List.forall_mem_cons]
  refine ⟨?_, ?_, ?_, nofun⟩
  · exact (ofJson_strict (spaced_flatten (Doc.object []).lexemes)).1 (.lacks (by decide) absent)
  · exact (ofJson_strict (spaced_flatten (Doc.object strayMembers).lexemes)).1 offends_strayMembers
  · exact (ofJson_strict (spaced_flatten (Doc.object redAgain).lexemes)).1 offends_redAgain

-- A name that is written with an escape is the same name, and it may not be there twice.
example : (ofJson ("\x7b\"inputs\": [], \"outputs\": [], \"inp\\u0075ts\": []\x7d")).toOption =
    none := by
  decide +kernel

end NodeConfig

end Tint
