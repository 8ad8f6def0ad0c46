import Tint.Proofs.Json.Decoding

/-!
# What records are read as

A record is read member by member, into a draft that says what has been read. Here a record comes
with what the values of its members are read as, and so it is a function of the value that is
written like everything else.

## The model

* `Part` is a member of a record with what its value is read as and where it goes in a draft.
* `Schema` is a record with its parts. `Schema.gather` adds the members of an object to a draft in
  their order, and `Schema.fill` the elements of an array.

## What is proved

* `Schema.decodes`: a record is read as its schema says, as an object and as an array.
-/

namespace Tint.Json

open Reader

/-- A member of a record that is drafted as a `σ`, and what its value is read as. -/
structure Part (σ : Type) where
  /-- The member. -/
  member : Member σ
  /-- The type of its values. -/
  kind : Type
  /-- What a value is read as. -/
  decode : Doc → Option kind
  /-- Put a value into a draft. -/
  set : σ → kind → σ
  /-- The member is read so. -/
  decodes : ∀ draft, Decodes (member.read draft) fun d => (decode d).map (set draft)

/-- A record with its parts. -/
structure Schema (σ α : Type) where
  /-- The record. -/
  record : Record σ α
  /-- The parts in the declared order. -/
  parts : List (Part σ)
  /-- They are those of the members. -/
  members_eq : record.members = parts.map (·.member)

namespace Schema

variable {α σ : Type} (schema : Schema σ α) {lexemes : List (List Char)}

/-- The part of a name. -/
def part? (name : List Char) : Option (Part σ) :=
  schema.parts.find? fun p => p.member.name.toList = name

/-- Add a member of a name to a draft: of a declared name at most once, and of another name only
to an open record. -/
def addNamed (draft : σ) (name : List Char) (d : Doc) : Option σ :=
  match schema.part? name with
  | some p => if p.member.present draft then none else (p.decode d).map (p.set draft)
  | none => if schema.record.isOpen then some draft else none

/-- Add a member to a draft. -/
def add (draft : σ) (key : Written) (d : Doc) : Option σ :=
  key.content.bind fun name => schema.addNamed draft name d

/-- Add members in their order. -/
def gather (draft : σ) : List (Written × Doc) → Option σ
  | [] => some draft
  | (key, d) :: ms => (schema.add draft key d).bind fun next => gather next ms

/-- Add elements to the parts that are left. -/
def fill (draft : σ) : List (Part σ) → List Doc → Option σ
  | [], [] => some draft
  | [], _ :: _ => none
  | p :: ps, [] => if p.member.required then none else fill draft ps []
  | p :: ps, d :: ds => ((p.decode d).map (p.set draft)).bind fun next => fill next ps ds

/-- The record of a draft that has every member which has to be there. -/
def complete? (draft : σ) : Option α :=
  match schema.record.members.find? fun m => m.required && !m.present draft with
  | some _ => none
  | none => schema.record.finish draft

/-- What a value is read as. -/
def decode : Doc → Option α
  | .array ds => (fill schema.record.empty schema.parts ds).bind schema.complete?
  | .object ms => (schema.gather schema.record.empty ms).bind schema.complete?
  | _ => none

theorem find?_members (name : List Char) :
    (schema.record.members.find? fun m => m.name.toList = name) =
      (schema.part? name).map (·.member) := by
  rw [schema.members_eq, List.find?_map]
  rfl

theorem answers_complete (draft : σ) {P : List Char → Prop} :
    (schema.record.complete draft).Answers P (schema.complete? draft) P := by
  rw [Record.complete, complete?]
  cases schema.record.members.find? fun m => m.required && !m.present draft with
  | some m => exact fails_float _
  | none =>
    cases schema.record.finish draft with
    | none => exact fails_float _
    | some a => exact .pure a

/-! ### Objects -/

theorem answers_key (key : Written) (first : Bool) (lexemes : List (List Char)) :
    (Reader.key first).Answers (Spaced (lead first ++ key.lexeme :: lexemes))
      (key.content.map some) (Spaced lexemes) := by
  cases first with
  | true =>
    exact Takes.answers (takes_next rfl) (Takes.answers takes_skip ((answers_string key).map some))
  | false =>
    refine Takes.answers (takes_next rfl) (Takes.answers takes_mark ?_)
    exact Takes.answers (takes_next rfl) (Takes.answers takes_skip ((answers_string key).map some))

/-- One member is added to the draft. -/
theorem answers_readMember (apart : Apart lexemes) (draft : σ) (key : Written) (d : Doc)
    (first : Bool) :
    (schema.record.readMember first draft).Answers
      (Spaced (lead first ++ (Doc.memberItem (key, d) ++ lexemes)))
      (((schema.add draft key d).map fun next => (false, next)).map .inl) (Spaced lexemes) := by
  have answer : ((schema.add draft key d).map fun next => (false, next)).map Sum.inl =
      (key.content.map some).bind fun read => read.bind fun name =>
        (((schema.addNamed draft name d).map fun next => (false, next)).map .inl :
          Option ((Bool × σ) ⊕ σ)) := by
    rw [add]
    cases key.content <;> rfl
  have named := answers_key key first ([':'] :: (d.lexemes ++ lexemes))
  rw [answer]
  refine named.bind fun read some => ?_
  obtain ⟨name, -, rfl⟩ := Option.map_eq_some_iff.1 some
  rw [Option.bind_some, addNamed]
  simp only [find?_members]
  cases schema.part? name with
  | some p =>
    simp only [Option.map_some]
    split
    · exact fails_float _
    · have value := (p.decodes draft d lexemes apart).map fun next =>
        (.inl (false, next) : (Bool × σ) ⊕ σ)
      rw [Option.map_map]
      exact Takes.answers takes_colon value
  | none =>
    simp only [Option.map_none]
    split
    · exact takes_colon.bind ((takes_passValue d apart).bind (.pure _))
    · exact fails_float _

theorem answers_members (ms : List (Written × Doc)) (draft : σ) (first : Bool) {fuel : Nat}
    (enough : ms.length < fuel) :
    (rounds (fun (state : Bool × σ) => schema.record.readMember state.1 state.2) fuel
      (first, draft)).Answers
      (Spaced (joined first (ms.map Doc.memberItem) ++ ['\x7d'] :: lexemes))
      (schema.gather draft ms) (Spaced (['\x7d'] :: lexemes)) := by
  -- The induction is on the members that are left. Only the first round expects no comma.
  induction ms generalizing draft first fuel with
  | nil =>
    obtain ⟨fuel, rfl⟩ := Nat.exists_eq_succ_of_ne_zero (Nat.ne_zero_of_lt enough)
    exact Takes.last ((takes_key_end _).bind (.pure _))
  | cons m ms ih =>
    obtain ⟨key, d⟩ := m
    obtain ⟨fuel, rfl⟩ := Nat.exists_eq_succ_of_ne_zero (Nat.ne_zero_of_lt enough)
    have brace : continuesNumber '\x7d' = false := rfl
    have round := schema.answers_readMember
      (apart_joined (ms.map Doc.memberItem) brace lexemes) draft key d first
    have answer : schema.gather draft ((key, d) :: ms) =
        ((schema.add draft key d).map fun next => (false, next)).bind fun state =>
          schema.gather state.2 ms := by
      rw [gather, Option.bind_map]
      rfl
    rw [answer]
    simp only [List.map_cons, joined, List.append_assoc]
    refine Answers.again round fun state made => ?_
    obtain ⟨next, -, rfl⟩ := Option.map_eq_some_iff.1 made
    exact ih next false (Nat.lt_of_succ_lt_succ enough)

theorem answers_readMembers (ms : List (Written × Doc)) (lexemes : List (List Char)) :
    schema.record.readMembers.Answers
      (Spaced (joined true (ms.map Doc.memberItem) ++ ['\x7d'] :: lexemes))
      (schema.gather schema.record.empty ms) (Spaced (['\x7d'] :: lexemes)) := by
  refine Answers.loop (fun fuel enough => schema.answers_members ms _ true enough)
    fun text spaced => joined_room (fun m _ => ?_) spaced
  nofun

/-! ### Arrays -/

theorem fails_endArray (first : Bool) (d : Doc) (ds : List Doc) :
    endArray.Fails (Spaced (joined first ((d :: ds).map Doc.lexemes) ++ [']'] :: lexemes)) := by
  obtain ⟨c, w, rest, written, starts⟩ := d.lexemes_cons
  simp only [List.map_cons, joined, written, List.append_assoc, List.cons_append]
  cases first with
  | true =>
    refine Fails.after (takes_next starts.solid.1) ?_
    split
    · exact fails_stopAfter _
    · next same => exact absurd (Option.some.inj same) starts.ne_bracket
    · next same =>
      cases same
      exact absurd (by decide) starts.solid.2
    · exact fails_stopAfter _
  | false =>
    refine Fails.after (takes_next rfl) (Fails.after takes_mark (fails_bind fun c => ?_))
    split <;> exact fails_stopAfter _

/-- The elements that are left are read into the members that are left. -/
theorem answers_readElements (ps : List (Part σ)) (ds : List Doc) (draft : σ) (count : Nat)
    (lexemes : List (List Char)) :
    ((schema.record.readElements count draft (ps.map (·.member)) >>=
      schema.record.complete).closedBy endArray).Answers
      (Spaced (joined (count == 0) (ds.map Doc.lexemes) ++ [']'] :: lexemes))
      ((fill draft ps ds).bind schema.complete?) (Spaced lexemes) := by
  induction ps generalizing ds draft count with
  | nil =>
    cases ds with
    | nil => exact (schema.answers_complete draft).closedBy takes_endArray
    | cons d ds => exact (schema.answers_complete draft).fails_closedBy (fails_endArray _ d ds)
  | cons p ps ih =>
    rw [List.map_cons, Record.readElements, bind_bind]
    cases ds with
    | nil =>
      refine Takes.answers_closedBy (takes_element_end _) ?_
      rw [if_neg Bool.false_ne_true, fill]
      split
      · exact Fails.closedBy (Fails.bind (fails_float _) _)
      · exact ih [] draft count
    | cons d ds =>
      obtain ⟨c, w, rest, written, starts⟩ := d.lexemes_cons
      have bracket : continuesNumber ']' = false := rfl
      have value := p.decodes draft d _ (apart_joined (ds.map Doc.lexemes) bracket lexemes)
      rw [written, List.cons_append] at value
      simp only [List.map_cons, joined, written, List.append_assoc, List.cons_append]
      refine Takes.answers_closedBy (takes_element starts.solid.1 starts.ne_bracket _) ?_
      rw [if_pos rfl, bind_bind, fill, Option.bind_assoc]
      exact value.bind_closedBy fun next _ => ih ds next (count + 1)

/-- **A record is read as its schema says.** -/
theorem decodes : Decodes schema.record.read schema.decode := by
  intro d lexemes _
  obtain ⟨c, w, rest, -, starts, front⟩ := takes_front d lexemes
  cases d with
  | array ds =>
    have elements := schema.answers_readElements schema.parts ds schema.record.empty 0 lexemes
    rw [← schema.members_eq] at elements
    rw [Doc.lexemes_array, List.cons_append, List.append_assoc]
    exact Answers.fixed (Takes.answers (takes_next rfl) (Takes.answers takes_mark elements))
  | object ms =>
    have members := (schema.answers_readMembers ms lexemes).bind
      fun draft _ => schema.answers_complete draft
    rw [Doc.lexemes_object, List.cons_append, List.append_assoc]
    refine Answers.fixed (Takes.answers (takes_next rfl) (Takes.answers takes_mark ?_))
    exact members.closedBy takes_endObject
  | _ =>
    refine Answers.fixed (Takes.answers front ?_)
    split
    · exact fails_stopAfter _
    · next same =>
      cases same
      obtain ⟨ds, array⟩ := starts.array?
      cases array
    · next same =>
      cases same
      obtain ⟨ms, object⟩ := starts.object?
      cases object
    · exact fails_wrongType _

end Schema

end Tint.Json
