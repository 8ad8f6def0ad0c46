import Tint.Json.Record
import Tint.Proofs.Json.Scalars

/-!
# Arrays and records

Arrays are read element by element, and records member by member, in whatever order these are
written.

## The model

* `joined` are the lexemes of items with commas between them: those of the elements of an array
  and of the members of an object.
* `Record.Drafts` says that reading members one after the other takes one draft of a record to
  another.

## What is proved

* `reads_array`: an array is read if its elements are.
* `Record.reads`: an object is read if its members lead from the empty draft to a complete one.
-/

namespace Tint.Json

open Reader

variable {α σ : Type} {lexemes : List (List Char)}

/-! ### Commas -/

/-- What stands before an item: a comma, unless it is the first one. -/
def lead (first : Bool) : List (List Char) := if first then [] else [[',']]

/-- The lexemes of items with commas between them. -/
def joined (first : Bool) : List (List (List Char)) → List (List Char)
  | [] => []
  | item :: items => lead first ++ item ++ joined false items

/-- Every item has a character. -/
theorem length_le_joined {as : List α} {item : α → List (List Char)}
    (full : ∀ a ∈ as, (item a).flatten ≠ []) (first : Bool) :
    as.length ≤ (joined first (as.map item)).flatten.length := by
  induction as generalizing first with
  | nil => exact Nat.zero_le _
  | cons a as ih =>
    have some := List.length_pos_iff.2 (full a List.mem_cons_self)
    have others := ih (fun b mem => full b (List.mem_cons_of_mem _ mem)) false
    simp only [List.map_cons, joined, List.flatten_append, List.length_append, List.length_cons]
    omega

/-- A text with items has room for a round for each of them and one more. -/
theorem joined_room {as : List α} {item : α → List (List Char)} {text : List Char} {first : Bool}
    (full : ∀ a ∈ as, (item a).flatten ≠ [])
    (spaced : Spaced (joined first (as.map item) ++ lexemes) text) :
    as.length + 1 ≤ 2 * text.length + 2 := by
  have counted := length_le_joined full first
  have written := spaced.length_le
  rw [List.flatten_append, List.length_append] at written
  omega

/-- A comma or an end continues no number. -/
theorem apart_joined (items : List (List (List Char))) {last : Char}
    (ends : continuesNumber last = false) (lexemes : List (List Char)) :
    Apart (joined false items ++ [last] :: lexemes) := by
  cases items with
  | nil =>
    rintro _ ⟨⟩
    exact ends
  | cons item items =>
    rintro _ ⟨⟩
    rfl

/-! ### Arrays -/

theorem elementLexemes_eq (ts : List Tree) :
    Tree.elementLexemes ts = joined false (ts.map Tree.lexemes) := by
  induction ts with
  | nil => rw [Tree.elementLexemes]; rfl
  | cons t ts ih => rw [Tree.elementLexemes, ih]; rfl

theorem lexemes_array (ts : List Tree) :
    (Tree.array ts).lexemes = ['['] :: (joined true (ts.map Tree.lexemes) ++ [[']']]) := by
  cases ts with
  | nil => rw [Tree.lexemes]; rfl
  | cons t ts => rw [Tree.lexemes, elementLexemes_eq]; rfl

theorem takes_element {c : Char} {w : List Char} (solid : isSpace c = false) (other : c ≠ ']')
    (first : Bool) :
    (element first).Takes (Spaced (lead first ++ (c :: w) :: lexemes)) true
      (Spaced ((c :: w) :: lexemes)) := by
  cases first with
  | true =>
    refine (takes_next solid).bind ?_
    split
    · next h => cases h
    · next h => exact absurd (Option.some.inj h) other
    · exact (Takes.pure true).after fun _ => AtFront.spaced
  | false =>
    refine (takes_next rfl).bind (takes_mark.bind ((takes_next solid).bind ?_))
    split
    · next h => cases h
    · next h => exact absurd (Option.some.inj h) other
    · exact (Takes.pure true).after fun _ => AtFront.spaced

theorem takes_element_end (first : Bool) :
    (element first).Takes (Spaced ([']'] :: lexemes)) false (Spaced ([']'] :: lexemes)) :=
  (takes_next rfl).bind ((Takes.pure false).after fun _ => AtFront.spaced)

theorem takes_endArray : endArray.Takes (Spaced ([']'] :: lexemes)) () (Spaced lexemes) :=
  (takes_next rfl).bind takes_mark

/-- The elements that are left are read after those that were read. -/
theorem takes_elements {r : Reader α} {tree : α → Tree} {as : List α}
    (reads : ∀ a ∈ as, Reads r (tree a) a) (read : List α) {fuel : Nat}
    (enough : as.length < fuel) :
    (rounds (fun read => do
      if ← element read.isEmpty then
        let a ← r
        return .inl (a :: read)
      else return .inr read.reverse) fuel read).Takes
      (Spaced (joined read.isEmpty (as.map fun a => (tree a).lexemes) ++ [']'] :: lexemes))
      (read.reverse ++ as) (Spaced ([']'] :: lexemes)) := by
  -- The induction is on the elements that are left. Those that were read are held last first, and
  -- that there are some means that a comma comes next.
  induction as generalizing read fuel with
  | nil =>
    obtain ⟨fuel, rfl⟩ := Nat.exists_eq_succ_of_ne_zero (Nat.ne_zero_of_lt enough)
    rw [List.append_nil]
    exact Takes.last ((takes_element_end _).bind (.pure _))
  | cons a as ih =>
    obtain ⟨fuel, rfl⟩ := Nat.exists_eq_succ_of_ne_zero (Nat.ne_zero_of_lt enough)
    have others := ih (fun b mem => reads b (List.mem_cons_of_mem _ mem)) (a :: read)
      (Nat.lt_of_succ_lt_succ enough)
    obtain ⟨c, w, rest, written, solid, other, -⟩ := lexemes_cons (tree a)
    -- Every element is followed by a comma or by the bracket, so that even a number ends there.
    have bracket : continuesNumber ']' = false := rfl
    have taken := reads a List.mem_cons_self _
      (apart_joined (as.map fun a => (tree a).lexemes) bracket lexemes)
    rw [List.reverse_cons, List.append_assoc] at others
    rw [written, List.cons_append] at taken
    simp only [List.map_cons, joined, written, List.append_assoc, List.cons_append]
    refine Takes.again ((takes_element solid other _).bind ?_) others
    rw [if_pos rfl]
    exact taken.bind (.pure _)

/-- **An array is read if its elements are.** -/
theorem reads_array {r : Reader α} {tree : α → Tree} (as : List α)
    (reads : ∀ a ∈ as, Reads r (tree a) a) : Reads (Reader.array r) (.array (as.map tree)) as := by
  intro lexemes _
  rw [lexemes_array, List.map_map, List.cons_append, List.append_assoc]
  refine Takes.fixed ((takes_next rfl).bind (takes_mark.bind (Takes.closedBy ?_ takes_endArray)))
  refine Takes.loop (fun fuel enough => takes_elements reads [] enough) fun text spaced => ?_
  refine joined_room (fun a _ => ?_) spaced
  obtain ⟨c, w, rest, written, -⟩ := lexemes_cons (tree a)
  rw [Function.comp_apply, written]
  nofun

/-! ### Records -/

/-- The lexemes of a member. -/
def memberItem (member : List Char × Tree) : List (List Char) :=
  [stringLexeme member.1, [':']] ++ member.2.lexemes

theorem memberLexemes_eq (members : List (List Char × Tree)) :
    Tree.memberLexemes members = joined false (members.map memberItem) := by
  induction members with
  | nil => rw [Tree.memberLexemes]; rfl
  | cons member members ih => rw [Tree.memberLexemes, ih]; rfl

theorem lexemes_object (members : List (List Char × Tree)) :
    (Tree.object members).lexemes =
      ['\x7b'] :: (joined true (members.map memberItem) ++ [['\x7d']]) := by
  cases members with
  | nil => rw [Tree.lexemes]; rfl
  | cons member members => rw [Tree.lexemes, memberLexemes_eq]; rfl

theorem takes_key (key : List Char) (first : Bool) :
    (Reader.key first).Takes (Spaced (lead first ++ stringLexeme key :: lexemes)) (some key)
      (Spaced lexemes) := by
  cases first with
  | true => exact (takes_next rfl).bind (takes_skip.bind (takes_string.map some))
  | false =>
    exact (takes_next rfl).bind (takes_mark.bind ((takes_next rfl).bind
      (takes_skip.bind (takes_string.map some))))

theorem takes_key_end (first : Bool) :
    (Reader.key first).Takes (Spaced (['\x7d'] :: lexemes)) none (Spaced (['\x7d'] :: lexemes)) :=
  (takes_next rfl).bind ((Takes.pure none).after fun _ => AtFront.spaced)

theorem takes_endObject : endObject.Takes (Spaced (['\x7d'] :: lexemes)) () (Spaced lexemes) :=
  (takes_next rfl).bind takes_mark

namespace Record

variable (record : Record σ α)

/-- Reading members one after the other takes a draft of the record to another. Each name is that
of a member which the draft does not have. -/
inductive Drafts : σ → List (List Char × Tree) → σ → Prop
  /-- Without members the draft stays. -/
  | nil (draft : σ) : Drafts draft [] draft
  /-- A member is added to the draft. -/
  | cons {draft next last : σ} {key : List Char} {value : Tree} {members : List (List Char × Tree)}
      {m : Member σ} (named : record.members.find? (fun m => m.name.toList = key) = some m)
      (absent : m.present draft = false) (reads : Reads (m.read draft) value next)
      (rest : Drafts next members last) : Drafts draft ((key, value) :: members) last

variable {record}

/-- The members that are left are read after those that were read. -/
theorem Drafts.takes {draft last : σ} {members : List (List Char × Tree)}
    (drafts : record.Drafts draft members last) (first : Bool) {fuel : Nat}
    (enough : members.length < fuel) :
    (rounds (fun (state : Bool × σ) => record.readMember state.1 state.2) fuel (first, draft)).Takes
      (Spaced (joined first (members.map memberItem) ++ ['\x7d'] :: lexemes)) last
      (Spaced (['\x7d'] :: lexemes)) := by
  -- The induction is on the members that are left. Only the first round expects no comma.
  induction drafts generalizing first fuel with
  | nil draft =>
    obtain ⟨fuel, rfl⟩ := Nat.exists_eq_succ_of_ne_zero (Nat.ne_zero_of_lt enough)
    exact Takes.last ((takes_key_end _).bind (.pure _))
  | @cons draft next last key value members m named absent reads rest ih =>
    obtain ⟨fuel, rfl⟩ := Nat.exists_eq_succ_of_ne_zero (Nat.ne_zero_of_lt enough)
    have brace : continuesNumber '\x7d' = false := rfl
    have taken := reads _ (apart_joined (members.map memberItem) brace lexemes)
    refine Takes.again ?_ (ih false (Nat.lt_of_succ_lt_succ enough))
    simp only [List.map_cons, joined, memberItem, List.append_assoc, List.cons_append,
      List.nil_append]
    refine (takes_key key first).bind ?_
    simp only [named, absent]
    exact takes_colon.bind (taken.bind (.pure _))

/-- **An object is read if its members lead from the empty draft to a complete one.** -/
theorem reads {members : List (List Char × Tree)} (draft : σ) {a : α}
    (drafts : record.Drafts record.empty members draft)
    (complete : record.complete draft = pure a) :
    Reads record.read (.object members) a := by
  intro lexemes _
  rw [lexemes_object, List.cons_append, List.append_assoc]
  refine Takes.fixed ((takes_next rfl).bind (takes_mark.bind (Takes.closedBy ?_ takes_endObject)))
  have taken : record.readMembers.Takes
      (Spaced (joined true (members.map memberItem) ++ ['\x7d'] :: lexemes)) draft
      (Spaced (['\x7d'] :: lexemes)) := by
    refine Takes.loop (fun fuel enough => drafts.takes true enough) fun text spaced => ?_
    have full : ∀ member ∈ members, (memberItem member).flatten ≠ [] := by
      rintro member -
      nofun
    exact joined_room full spaced
  refine taken.bind ?_
  rw [complete]
  exact .pure a

end Record

end Tint.Json
